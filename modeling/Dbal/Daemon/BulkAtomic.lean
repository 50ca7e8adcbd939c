/-
# All or nothing

A bulk or batch request over an adapter with working transactions should apply every
item and commit, or change nothing, and in both cases leave no transaction open.

The loop rolls back where an item is refused or a call fails, but nothing catches an
exception between `begin` and the end, and a commit that fails is only reported.
`bulk_atomic_iff`: the request is all or nothing exactly when it reaches neither.
-/

import Dbal.Daemon.BulkPlan
import Dbal.Store.MapStore

namespace Dbal
namespace Daemon

open Route BulkRequest

variable {σ ρ : Type}

/-- An adapter with working transactions: the row calls neither open nor end one. -/
structure Transactional (A : Adapter σ) (ρ : Type) extends Tx.Laws A.tx ρ where
  create_saved : ∀ entity data s, saved (A.create entity data s).2 = saved s
  update_saved : ∀ entity id data s, saved (A.update entity id data s).2 = saved s
  remove_saved : ∀ entity id s, saved (A.remove entity id s).2 = saved s

section

variable (A : Adapter σ) (plan : Json → Except JsonError (Option Call))

/-- Every item asked for a call that succeeded, and the store went from `s` to `s'`. -/
def AppliesAll : List Json → σ → σ → Prop
  | [], s, s' => s' = s
  | item :: items, s, s' =>
      ∃ call s₁, plan item = .ok (some call) ∧ call.perform A s = (.ok (.ok ()), s₁) ∧
        AppliesAll items s₁ s'

/-- From `s` on, up to the first item that is refused, no access to an item and no call
throws; and a commit that is reached ends the transaction. -/
def Calm {A : Adapter σ} (laws : Transactional A ρ)
    (plan : Json → Except JsonError (Option Call)) : List Json → σ → Prop
  | [], s => laws.saved (A.commitTransaction s).2 = none
  | item :: items, s =>
      match plan item with
      | .error _ => False
      | .ok none => True
      | .ok (some call) =>
          match call.perform A s with
          | (.error _, _) => False
          | (.ok (.error _), _) => True
          | (.ok (.ok _), s') => Calm laws plan items s'

/-- The store before and after a request: no transaction is open, and nothing has changed or
every item was applied and committed. -/
def AllOrNothing {A : Adapter σ} (laws : Transactional A ρ) (formatReal : Int → Int → String)
    (req : BulkRequest) (s s' : σ) : Prop :=
  laws.saved s' = none ∧
    (laws.rows s' = laws.rows s ∨ ∃ items, req.items = some items ∧ ∃ b b' s₁ s₂,
      A.beginTransaction s = (.ok (.ok b), s₁) ∧
        AppliesAll A (req.plan formatReal) items s₁ s₂ ∧
          A.commitTransaction s₂ = (.ok (.ok b'), s'))

end

/-! ### The body of the loop -/

theorem Performs.cases {A : Adapter σ} {plan : Except JsonError (Option Call)} {s : σ}
    {outcome : Except Thrown (Except Reply Json) × σ} (h : Performs A plan s outcome) :
    (∃ e, plan = .error e ∧ outcome = (.error (.json e), s)) ∨
    (plan = .ok none ∧ ∃ refusal, outcome = (.ok (.error refusal), s)) ∨
    ∃ call, plan = .ok (some call) ∧
      ((∃ e s', call.perform A s = (.error e, s') ∧ outcome = (.error e, s')) ∨
      (∃ e s' refusal, call.perform A s = (.ok (.error e), s') ∧
        outcome = (.ok (.error refusal), s')) ∨
      ∃ s' result, call.perform A s = (.ok (.ok ()), s') ∧ outcome = (.ok (.ok result), s')) := by
  rcases plan with e | _ | call
  · exact Or.inl ⟨e, rfl, h⟩
  · exact Or.inr (Or.inl ⟨rfl, h⟩)
  · refine Or.inr (Or.inr ⟨call, rfl, ?_⟩)
    simp only [Performs] at h
    rcases hperform : call.perform A s with ⟨e | e | _, s'⟩ <;> rw [hperform] at h
    · exact Or.inl ⟨e, s', rfl, h⟩
    · obtain ⟨refusal, h⟩ := h
      exact Or.inr (Or.inl ⟨e, s', refusal, rfl, h⟩)
    · obtain ⟨result, h⟩ := h
      exact Or.inr (Or.inr ⟨s', result, rfl, h⟩)

theorem perform_saved {A : Adapter σ} (laws : Transactional A ρ) (call : Call) (s : σ) :
    laws.saved (call.perform A s).2 = laws.saved s := by
  cases call with
  | create entity data => simpa [Call.perform] using laws.create_saved entity data s
  | update entity id data => simpa [Call.perform] using laws.update_saved entity id data s
  | remove entity id => simpa [Call.perform] using laws.remove_saved entity id s

variable {A : Adapter σ} {formatReal : Int → Int → String} {req : BulkRequest}

theorem step_saved (laws : Transactional A ρ) (n : Nat) (item : Json) (s : σ) :
    laws.saved (req.step formatReal A n item s).2 = laws.saved s := by
  rcases (performs_step formatReal A req n item s).cases with
    ⟨e, -, h⟩ | ⟨-, refusal, h⟩ | ⟨call, -, h⟩
  · rw [h]
  · rw [h]
  · have hperform := perform_saved laws call s
    rcases h with ⟨e, s', hcall, h⟩ | ⟨e, s', refusal, hcall, h⟩ | ⟨s', result, hcall, h⟩ <;>
      · rw [hcall] at hperform
        rw [h]
        exact hperform

theorem applies_iff {items : List Json} {n : Nat} {s s' : σ} :
    Tx.Applies (req.step formatReal A) n items s s' ↔
      AppliesAll A (req.plan formatReal) items s s' := by
  induction items generalizing n s with
  | nil => rfl
  | cons item items ih =>
      simp only [Tx.Applies, AppliesAll]
      rcases (performs_step formatReal A req n item s).cases with
        ⟨e, hplan, h⟩ | ⟨hplan, refusal, h⟩ | ⟨call, hplan, h⟩
      · simp [h, hplan]
      · simp [h, hplan]
      · rcases h with ⟨e, s₁, hcall, h⟩ | ⟨e, s₁, refusal, hcall, h⟩ | ⟨s₁, result, hcall, h⟩
        · simp [h, hplan, hcall]
        · simp [h, hplan, hcall]
        · simp [h, hplan, hcall, ih]

theorem smooth_iff (laws : Transactional A ρ) {items : List Json} {n : Nat} {s : σ} :
    Tx.Smooth laws.toLaws (req.step formatReal A) n items s ↔
      Calm laws (req.plan formatReal) items s := by
  induction items generalizing n s with
  | nil => rfl
  | cons item items ih =>
      simp only [Tx.Smooth, Calm]
      rcases (performs_step formatReal A req n item s).cases with
        ⟨e, hplan, h⟩ | ⟨hplan, refusal, h⟩ | ⟨call, hplan, h⟩
      · simp [h, hplan]
      · simp [h, hplan]
      · rcases h with ⟨e, s₁, hcall, h⟩ | ⟨e, s₁, refusal, hcall, h⟩ | ⟨s₁, result, hcall, h⟩
        · simp [h, hplan, hcall]
        · simp [h, hplan, hcall]
        · simp [h, hplan, hcall, ih]

/-! ### The handlers -/

/-- What a request does to the store: nothing if it has no items, and otherwise what the
transaction does. -/
def Runs (A : Adapter σ) (step : Nat → Json → Act Thrown σ (Except Reply Json))
    (items : Option (List Json)) (s s' : σ) : Prop :=
  match items with
  | none => s' = s
  | some items => ∃ commitFailed finish beginFailed,
      s' = (A.tx.run step commitFailed finish beginFailed items s).2

theorem bulk_runs {notArray isEmpty count list : String}
    {step : Nat → Json → Act Thrown σ (Except Reply Json)} (body : Json) (s : σ) :
    Runs A step (arrayItems body) s (bulk A notArray isEmpty count list step body s).2 := by
  unfold bulk withExceptionHandling
  rw [Act.catching_snd]
  cases body with
  | arr items =>
      cases items with
      | nil => exact rfl
      | cons item items => exact ⟨_, _, _, rfl⟩
  | _ => exact rfl

/-- The check of a batch finds its operations, or answers or throws before the transaction. -/
theorem batchItems_cases (body : Json) :
    (∃ operations, (body.find? "operations").bind arrayItems = some operations ∧
      batchItems body = .ok (.ok operations)) ∨
    ((body.find? "operations").bind arrayItems = none ∧
      ((∃ refusal, batchItems body = .ok (.error refusal)) ∨ ∃ e, batchItems body = .error e)) := by
  unfold batchItems
  cases hops : body.find? "operations" with
  | none =>
      refine Or.inr ⟨rfl, ?_⟩
      cases body <;> simp [Json.isMember, Json.contains, hops, bind, Except.bind, pure, Except.pure]
  | some operations =>
      obtain ⟨members, rfl⟩ := Json.exists_obj_of_find? hops
      have hmember : (Json.obj members).isMember "operations" = .ok true := by
        simp [Json.isMember, Json.contains, hops]
      simp only [hmember, bind, Except.bind, pure, Except.pure, if_true]
      cases operations with
      | arr operations =>
          cases operations with
          | nil => exact Or.inr ⟨rfl, Or.inl ⟨_, rfl⟩⟩
          | cons op ops => exact Or.inl ⟨_, rfl, rfl⟩
      | _ => exact Or.inr ⟨rfl, Or.inl ⟨_, rfl⟩⟩

theorem handleBatch_runs (tenant : String) (body : Option Json) (s : σ) :
    Runs A (batchStep A tenant) (BulkRequest.batch tenant body).items s
      (handleBatch A tenant body s).2 := by
  cases body with
  | none => exact rfl
  | some body =>
      simp only [handleBatch, Act.catching_snd, BulkRequest.items, Option.bind_some]
      rcases batchItems_cases body with ⟨operations, hops, h⟩ | ⟨hops, ⟨refusal, h⟩ | ⟨e, h⟩⟩
      · rw [hops, h]
        exact ⟨_, _, _, rfl⟩
      · rw [hops, h]
        exact rfl
      · rw [hops, h]
        exact rfl

theorem handle_runs (formatReal : Int → Int → String) (A : Adapter σ) (req : BulkRequest) (s : σ) :
    Runs A (req.step formatReal A) req.items s (req.handle formatReal A s).2 := by
  cases req with
  | create route body => exact bulk_runs body s
  | update route body => exact bulk_runs body s
  | delete route body => exact bulk_runs body s
  | batch tenant body => exact handleBatch_runs tenant body s

/-- **When bulk and batch requests are all or nothing.** -/
theorem bulk_atomic_iff (formatReal : Int → Int → String) (laws : Transactional A ρ)
    (req : BulkRequest) {s : σ} (hclosed : laws.saved s = none) :
    AllOrNothing laws formatReal req s (req.handle formatReal A s).2 ↔
      ∀ items, req.items = some items → ∀ b s₁, A.beginTransaction s = (.ok (.ok b), s₁) →
        Calm laws (req.plan formatReal) items s₁ := by
  have hruns := handle_runs formatReal A req s
  cases hitems : req.items with
  | none =>
      rw [hitems] at hruns
      have hstate : (req.handle formatReal A s).2 = s := hruns
      simp [AllOrNothing, hitems, hstate, hclosed]
  | some items =>
      rw [hitems] at hruns
      obtain ⟨commitFailed, finish, beginFailed, hstate⟩ := hruns
      have hatomic := @Tx.run_atomic_iff _ _ _ _ _ _ _ A.tx (req.step formatReal A) commitFailed
        beginFailed finish items s laws.toLaws (step_saved laws) hclosed
      rw [hstate]
      simp only [Tx.Atomic, applies_iff, smooth_iff] at hatomic
      simpa [AllOrNothing, hitems] using hatomic

/-! ### Over the ideal store -/

/-- The ideal store is an adapter with working transactions. -/
def mapTransactional : Transactional (MapStore.adapter MapStore.anyEntity) (List Entry) where
  toLaws := MapStore.laws _
  create_saved _ _ s :=
    MapStore.withEntity_saved _ (fun entity => MapStore.insert_saved entity _) s
  update_saved _ _ _ s :=
    MapStore.withEntity_saved _ (fun entity => MapStore.modify_saved entity _ _) s
  remove_saved _ _ s :=
    MapStore.withEntity_saved _ (fun entity => MapStore.erase_saved entity _) s

/-- Two posts. -/
def twoPosts : MapStore where
  rows := [⟨"Post", "p1", .obj [("id", .str "p1")]⟩, ⟨"Post", "p2", .obj [("id", .str "p2")]⟩]

/-- A bulk delete. -/
def deletePosts (ids : List String) : BulkRequest :=
  .delete (handlerRoute "acme" "core" "Post" none) (.arr (ids.map .str))

/-- Two rows are deleted; with a third that is not there they are not, and both times no transaction
is left open. -/
theorem bulk_atomic_delete_posts :
    AllOrNothing mapTransactional (fun _ _ => "") (deletePosts ["p1", "p2"]) twoPosts
      ((deletePosts ["p1", "p2"]).handle (fun _ _ => "") (MapStore.adapter MapStore.anyEntity)
        twoPosts).2 ∧
    AllOrNothing mapTransactional (fun _ _ => "") (deletePosts ["p1", "p2", "p3"]) twoPosts
      ((deletePosts ["p1", "p2", "p3"]).handle (fun _ _ => "") (MapStore.adapter MapStore.anyEntity)
        twoPosts).2 := by
  constructor
  · refine (bulk_atomic_iff (fun _ _ => "") mapTransactional _ rfl).2 ?_
    intro items hitems b s₁ hbegin
    obtain rfl := Option.some.inj hitems
    obtain ⟨-, rfl⟩ := Prod.mk.inj hbegin
    exact rfl
  · refine (bulk_atomic_iff (fun _ _ => "") mapTransactional _ rfl).2 ?_
    intro items hitems b s₁ hbegin
    obtain rfl := Option.some.inj hitems
    obtain ⟨-, rfl⟩ := Prod.mk.inj hbegin
    exact trivial

/-- **A transaction that is never closed.**  The second item of this bulk create is no object;
the handler throws on it after it has created the first, and neither commits nor rolls
back. -/
theorem bulk_create_leaks :
    ¬ AllOrNothing mapTransactional (fun _ _ => "")
      (.create (handlerRoute "acme" "core" "Post" none)
        (.arr [.obj [("title", .str "first")], .int 5])) {}
      (BulkRequest.handle (fun _ _ => "") (MapStore.adapter MapStore.anyEntity)
        (.create (handlerRoute "acme" "core" "Post" none)
          (.arr [.obj [("title", .str "first")], .int 5])) {}).2 := by
  intro h
  have hopen : (BulkRequest.handle (fun _ _ => "") (MapStore.adapter MapStore.anyEntity)
      (.create (handlerRoute "acme" "core" "Post" none)
        (.arr [.obj [("title", .str "first")], .int 5])) {}).2.saved.isSome := by
    decide +kernel
  have hclosed : MapStore.saved _ = none := h.1
  rw [hclosed] at hopen
  cases hopen

end Daemon
end Dbal
