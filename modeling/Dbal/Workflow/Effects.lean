/-
# The steps that are executed, and the effects they leave

`WfExecutor::executeNodes` for steps of any behaviour: a step may change the variables and the
world, and then throw.  What is executed is read off a log (`trace`), in which every step stands
with what it found and what it did.

The effects are one of the variables.  A `page.*` step adds to them and any other step may write
over them, so the log tells them where no other step does (`effectsOf_outcome`).
-/

import Dbal.Workflow.Executor
import Dbal.Workflow.Variables

namespace Dbal
namespace Workflow

open WfGraph

/-- `IWfStep::execute`, given the position of the node: the variables and the world are changed in
place. -/
abbrev Behaviour (σ : Type) := Nat → WfNode → Act WfThrown (WfContext × σ) Unit

/-- `steps_`. -/
abbrev Registry (σ : Type) := String → Option (Behaviour σ)

/-- A step that changes the variables only where it comes to its end. -/
def Steps.Step.behaviour {σ : Type} (step : Steps.Step σ) : Behaviour σ := fun i node st =>
  match step i node st.1 st.2 with
  | (.ok ctx, s) => (.ok (), (ctx, s))
  | (.error e, s) => (.error e, (st.1, s))

/-- The `page.*` steps. -/
def pageStep {σ : Type} (type : String) : Option (Steps.Step σ) :=
  match type with
  | "page.text" => some Steps.pageTextStep
  | "page.show" => some Steps.pageShowStep
  | "page.hide" => some Steps.pageHideStep
  | "page.class" => some Steps.pageClassStep
  | "page.message" => some Steps.pageMessageStep
  | "page.go" => some Steps.pageGoStep
  | _ => none

/-- The `page.*` steps, and others beside them. -/
def withPageSteps {σ : Type} (other : Registry σ) : Registry σ := fun type =>
  match pageStep type with
  | some step => some step.behaviour
  | none => other type

section

variable {σ : Type} (run : Runtime) (steps : Registry σ)

/-- `executeNodes`, from the `i`-th node on. -/
def executeSteps : Nat → List WfNode → Act Thrown (WfContext × σ) Unit
  | _, [] => pure ()
  | i, node :: nodes => fun st =>
      match steps node.type with
      | none => executeSteps (i + 1) nodes st
      | some step =>
          match step i (resolved run st.1 node) st with
          | (.ok (), st') => executeSteps (i + 1) nodes st'
          | (.error (.stop _), st') => (.ok (), st')
          | (.error (.failed e), st') => (.error e, st')

/-! ### The log -/

/-- A step that was executed: its node and position, what it found, how it ended and what it left
behind. -/
structure Executed (σ : Type) where
  node : WfNode
  position : Nat
  before : WfContext × σ
  result : Except WfThrown Unit
  after : WfContext × σ

/-- The steps that are executed, from the `i`-th node on. -/
def trace : Nat → List WfNode → WfContext × σ → List (Executed σ)
  | _, [], _ => []
  | i, node :: nodes, st =>
      match steps node.type with
      | none => trace (i + 1) nodes st
      | some step =>
          match step i (resolved run st.1 node) st with
          | (.ok (), st') => ⟨node, i, st, .ok (), st'⟩ :: trace (i + 1) nodes st'
          | (.error e, st') => [⟨node, i, st, .error e, st'⟩]

/-- The nodes of a registered type, with their positions. -/
def registeredNodes (i : Nat) (nodes : List WfNode) : List (WfNode × Nat) :=
  (nodes.zipIdx i).filter fun n => (steps n.1.type).isSome

/-- How a run ends that leaves the log. -/
def outcome (st : WfContext × σ) (log : List (Executed σ)) :
    Except Thrown Unit × (WfContext × σ) :=
  match log.getLast? with
  | none => (.ok (), st)
  | some last =>
      match last.result with
      | .error (.failed e) => (.error e, last.after)
      | _ => (.ok (), last.after)

/-- **The log of a run**: the registered nodes in their order, up to and with the first that throws;
each step runs its behaviour on its resolved node, from what the step before it left; and the run
ends as the last step did. -/
structure IsLog (i : Nat) (nodes : List WfNode) (st : WfContext × σ) (log : List (Executed σ)) :
    Prop where
  isPrefix : log.map (fun e => (e.node, e.position)) <+: registeredNodes steps i nodes
  complete : (∀ e ∈ log, e.result = .ok ()) →
    log.map (fun e => (e.node, e.position)) = registeredNodes steps i nodes
  going : ∀ e ∈ log.dropLast, e.result = .ok ()
  executed : ∀ e ∈ log, ∃ step, steps e.node.type = some step ∧
    step e.position (resolved run e.before.1 e.node) e.before = (e.result, e.after)
  chained : log.map Executed.before = (st :: log.map Executed.after).dropLast
  ended : executeSteps run steps i nodes st = outcome st log

variable {run steps}

theorem registeredNodes_skip {i : Nat} {node : WfNode} {nodes : List WfNode}
    (h : steps node.type = none) :
    registeredNodes steps i (node :: nodes) = registeredNodes steps (i + 1) nodes := by
  rw [registeredNodes, List.zipIdx_cons, List.filter_cons_of_neg (by simp [h])]
  rfl

theorem registeredNodes_next {i : Nat} {node : WfNode} {nodes : List WfNode} {step : Behaviour σ}
    (h : steps node.type = some step) :
    registeredNodes steps i (node :: nodes) = (node, i) :: registeredNodes steps (i + 1) nodes := by
  rw [registeredNodes, List.zipIdx_cons, List.filter_cons_of_pos (by simp [h])]
  rfl

/-- A step that comes to its end leaves the end of the run to those behind it. -/
theorem outcome_cons {e : Executed σ} (h : e.result = .ok ()) (st : WfContext × σ)
    (log : List (Executed σ)) : outcome st (e :: log) = outcome e.after log := by
  cases log with
  | nil => simp [outcome, h]
  | cons e' log =>
      have hlast := List.getLast?_eq_some_getLast (List.cons_ne_nil e' log)
      rw [outcome, outcome, List.getLast?_cons_cons, hlast]

theorem outcome_state_cons (e : Executed σ) (st : WfContext × σ) (log : List (Executed σ)) :
    (outcome st (e :: log)).2 = (outcome e.after log).2 := by
  cases log with
  | nil => rcases hresult : e.result with ⟨_ | _⟩ | _ <;> simp [outcome, hresult]
  | cons e' log =>
      have hlast := List.getLast?_eq_some_getLast (List.cons_ne_nil e' log)
      rw [outcome, outcome, List.getLast?_cons_cons, hlast]

variable (run steps) in
/-- Every run has its log. -/
theorem isLog_trace (i : Nat) (nodes : List WfNode) (st : WfContext × σ) :
    IsLog run steps i nodes st (trace run steps i nodes st) := by
  induction nodes generalizing i st with
  | nil =>
      exact {
        isPrefix := List.prefix_rfl
        complete := fun _ => rfl
        going := fun e he => absurd he List.not_mem_nil
        executed := fun e he => absurd he List.not_mem_nil
        chained := rfl
        ended := rfl }
  | cons node nodes ih =>
      cases hstep : steps node.type with
      | none =>
          obtain ⟨hexecutes, hcomplete, hgoing, hexecuted, hchained, hended⟩ := ih (i + 1) st
          rw [trace, hstep]
          constructor
          · rwa [registeredNodes_skip hstep]
          · rwa [registeredNodes_skip hstep]
          · exact hgoing
          · exact hexecuted
          · exact hchained
          · simpa only [executeSteps, hstep] using hended
      | some step =>
          rcases hrun : step i (resolved run st.1 node) st with ⟨e | _, st'⟩
          · simp only [trace, hstep, hrun]
            constructor
            · rw [registeredNodes_next hstep]
              exact List.prefix_append [(node, i)] _
            · intro hall
              cases hall _ List.mem_cons_self
            · exact fun e he => absurd he List.not_mem_nil
            · intro e he
              obtain rfl := List.mem_singleton.1 he
              exact ⟨step, hstep, hrun⟩
            · rfl
            · cases e <;> simp only [executeSteps, hstep, hrun] <;> rfl
          · obtain ⟨hexecutes, hcomplete, hgoing, hexecuted, hchained, hended⟩ := ih (i + 1) st'
            simp only [trace, hstep, hrun]
            constructor
            · rw [registeredNodes_next hstep, List.map_cons]
              exact List.cons_prefix_cons.2 ⟨rfl, hexecutes⟩
            · intro hall
              rw [registeredNodes_next hstep, List.map_cons,
                hcomplete fun e he => hall e (List.mem_cons_of_mem _ he)]
            · intro e he
              cases hlog : trace run steps (i + 1) nodes st' with
              | nil =>
                  rw [hlog] at he
                  cases he
              | cons e' log =>
                  rw [hlog] at he hgoing
                  rcases List.mem_cons.1 he with rfl | he
                  · rfl
                  · exact hgoing e he
            · intro e he
              rcases List.mem_cons.1 he with rfl | he
              · exact ⟨step, hstep, hrun⟩
              · exact hexecuted e he
            · rw [List.map_cons, List.map_cons, List.dropLast_cons_cons, hchained]
            · rw [outcome_cons rfl, ← hended]
              simp only [executeSteps, hstep, hrun]

/-! ### The effects -/

/-- The list of the effects. -/
def effectsOf (ctx : WfContext) : List Json :=
  match ctx.get effectsVar with
  | .arr effects => effects
  | _ => []

/-- The effect of a `page.*` step that came to its end: its resolved parameters, and its type. -/
def Executed.effect (run : Runtime) (e : Executed σ) : Option Json :=
  match pageStep (σ := σ) e.node.type, e.result with
  | some _, .ok () =>
      some ((resolved run e.before.1 e.node).parameters.set "do" (.str e.node.type))
  | _, _ => none

/-- The step adds to the effects, or leaves them as they are. -/
def KeepsEffects (e : Executed σ) : Prop :=
  (pageStep (σ := σ) e.node.type).isSome = true ∨ effectsOf e.after.1 = effectsOf e.before.1

/-- An effect is added at the end of the list. -/
theorem effectsOf_append (ctx : WfContext) (effect : Json) :
    effectsOf (ctx.set effectsVar (appendEffect (ctx.get effectsVar) effect)) =
      effectsOf ctx ++ [effect] := by
  have hdots : '.' ∉ effectsVar.toList := by decide
  rw [effectsOf, WfContext.get_eq, WfContext.stored?_set_self hdots, Option.getD_some, effectsOf]
  cases ctx.get effectsVar <;> rfl

theorem exists_required {type : String} {step : Steps.Step σ} (h : pageStep type = some step) :
    ∃ required, step = Steps.pageEffectStep type required := by
  unfold pageStep at h
  split at h
  all_goals first
    | exact ⟨_, (Option.some.inj h).symm⟩
    | cases h

/-- A parameter is missing, or the effect is added. -/
theorem pageEffectStep_cases (type : String) (required : List String) (i : Nat) (node : WfNode)
    (ctx : WfContext) (s : σ) :
    (∃ e, Steps.pageEffectStep type required i node ctx s = (.error e, s)) ∨
      Steps.pageEffectStep type required i node ctx s =
        (.ok (ctx.set effectsVar
          (appendEffect (ctx.get effectsVar) (node.parameters.set "do" (.str type)))), s) := by
  unfold Steps.pageEffectStep
  cases required.find? fun name => !node.parameters.contains name with
  | some name => exact Or.inl ⟨_, rfl⟩
  | none => exact Or.inr rfl

/-- **A `page.*` step adds its effect**, unless it throws. -/
theorem effectsOf_pageStep {e : Executed σ} {step : Steps.Step σ}
    (hpage : pageStep e.node.type = some step)
    (hrun : step.behaviour e.position (resolved run e.before.1 e.node) e.before =
      (e.result, e.after)) :
    effectsOf e.after.1 = effectsOf e.before.1 ++ (e.effect run).toList := by
  obtain ⟨required, rfl⟩ := exists_required hpage
  unfold Steps.Step.behaviour at hrun
  rw [Executed.effect, hpage]
  rcases pageEffectStep_cases e.node.type required e.position (resolved run e.before.1 e.node)
    e.before.1 e.before.2 with ⟨thrown, hstep⟩ | hstep
  · rw [hstep] at hrun
    obtain ⟨hresult, hafter⟩ := Prod.mk.inj hrun
    rw [← hresult, ← hafter]
    exact (List.append_nil _).symm
  · rw [hstep] at hrun
    obtain ⟨hresult, hafter⟩ := Prod.mk.inj hrun
    rw [← hresult, ← hafter]
    exact effectsOf_append _ _

/-- What a step of the log does to the effects, where it keeps them. -/
theorem effectsOf_executed {other : Registry σ} {e : Executed σ} (hkeeps : KeepsEffects e)
    {step : Behaviour σ} (hstep : withPageSteps other e.node.type = some step)
    (hrun : step e.position (resolved run e.before.1 e.node) e.before = (e.result, e.after)) :
    effectsOf e.after.1 = effectsOf e.before.1 ++ (e.effect run).toList := by
  unfold withPageSteps at hstep
  cases hpage : pageStep (σ := σ) e.node.type with
  | some page =>
      rw [hpage] at hstep
      obtain rfl := Option.some.inj hstep
      exact effectsOf_pageStep hpage hrun
  | none =>
      have hsame := hkeeps.resolve_left (by rw [hpage]; exact Bool.false_ne_true)
      have heffect : e.effect run = none := by rw [Executed.effect, hpage]
      rw [hsame, heffect]
      exact (List.append_nil _).symm

/-- **The effects of a chain of steps are those of the steps, one after the other.** -/
theorem effectsOf_outcome {other : Registry σ} {log : List (Executed σ)} {st : WfContext × σ}
    (hexecuted : ∀ e ∈ log, ∃ step, withPageSteps other e.node.type = some step ∧
      step e.position (resolved run e.before.1 e.node) e.before = (e.result, e.after))
    (hchained : log.map Executed.before = (st :: log.map Executed.after).dropLast)
    (hkeeps : ∀ e ∈ log, KeepsEffects e) :
    effectsOf (outcome st log).2.1 = effectsOf st.1 ++ log.filterMap (Executed.effect run) := by
  induction log generalizing st with
  | nil => exact (List.append_nil _).symm
  | cons e log ih =>
      rw [List.map_cons, List.map_cons, List.dropLast_cons_cons] at hchained
      obtain ⟨hbefore, hchained⟩ := List.cons.inj hchained
      obtain ⟨step, hstep, hrun⟩ := hexecuted e List.mem_cons_self
      have he := effectsOf_executed (hkeeps e List.mem_cons_self) hstep hrun
      have hlog := ih (fun e' he' => hexecuted e' (List.mem_cons_of_mem _ he')) hchained
        fun e' he' => hkeeps e' (List.mem_cons_of_mem _ he')
      calc effectsOf (outcome st (e :: log)).2.1
          = effectsOf (outcome e.after log).2.1 := by rw [outcome_state_cons]
        _ = effectsOf e.after.1 ++ log.filterMap (Executed.effect run) := hlog
        _ = effectsOf st.1 ++ ((e.effect run).toList ++ log.filterMap (Executed.effect run)) := by
            rw [he, hbefore, List.append_assoc]
        _ = effectsOf st.1 ++ (e :: log).filterMap (Executed.effect run) := by
            cases heffect : e.effect run with
            | none => rw [List.filterMap_cons_none heffect]; rfl
            | some effect => rw [List.filterMap_cons_some heffect]; rfl

theorem effectsOf_executeSteps {other : Registry σ} {nodes : List WfNode} {ctx : WfContext} {s : σ}
    (hnone : effectsOf ctx = [])
    (hkeeps : ∀ e ∈ trace run (withPageSteps other) 0 nodes (ctx, s), KeepsEffects e) :
    effectsOf (executeSteps run (withPageSteps other) 0 nodes (ctx, s)).2.1 =
      (trace run (withPageSteps other) 0 nodes (ctx, s)).filterMap (Executed.effect run) := by
  have hlog := isLog_trace run (withPageSteps other) 0 nodes (ctx, s)
  rw [hlog.ended, effectsOf_outcome hlog.executed hlog.chained hkeeps, hnone, List.nil_append]

/-- **The effects are those of the `page.*` steps**, as long as no other step writes over them.  What
is executed is the registered nodes up to and with the first that throws, each with its parameters
resolved in what the one before it left; and where every executed step keeps the effects, they are
the resolved parameters of the `page.*` steps that came to their end, each with its type, in their
order. -/
theorem effects_of_page_steps (run : Runtime) (other : Registry σ) (nodes : List WfNode)
    (ctx : WfContext) (s : σ) :
    IsLog run (withPageSteps other) 0 nodes (ctx, s)
        (trace run (withPageSteps other) 0 nodes (ctx, s)) ∧
      (effectsOf ctx = [] →
        (∀ e ∈ trace run (withPageSteps other) 0 nodes (ctx, s), KeepsEffects e) →
          effectsOf (executeSteps run (withPageSteps other) 0 nodes (ctx, s)).2.1 =
            (trace run (withPageSteps other) 0 nodes (ctx, s)).filterMap (Executed.effect run)) :=
  ⟨isLog_trace run _ 0 nodes (ctx, s), effectsOf_executeSteps⟩

end

/-- No library call and no draw matters. -/
def plainRuntime : Runtime where
  dump := fun _ => ""
  uuid := fun _ => ""
  time := fun _ => 0

/-- `dbal.var.set` beside the page steps. -/
def onlyVarSet : Registry Unit := fun type =>
  if type = "dbal.var.set" then some (Steps.varSetStep plainRuntime).behaviour else none

/-- A step that sets a variable to a text. -/
def setsVariable (id key : String) : WfNode where
  id := id
  type := "dbal.var.set"
  parameters := .obj [("key", .str key), ("value", .str "done")]
  outputs := .obj []

def showsMessage : WfNode where
  id := "message"
  type := "page.message"
  parameters := .obj [("text", .str "Thank you")]
  outputs := .obj []

/-- A message, with a variable set before and after it. -/
theorem effects_of_message :
    effectsOf (executeSteps plainRuntime (withPageSteps onlyVarSet) 0
        [setsVariable "first" "a", showsMessage, setsVariable "last" "b"] ({}, ())).2.1 =
      [.obj [("text", .str "Thank you"), ("do", .str "page.message")]] := by
  rw [(effects_of_page_steps plainRuntime onlyVarSet _ {} ()).2 rfl ?_]
  · rfl
  · refine List.forall_mem_cons.2 ⟨Or.inr rfl, List.forall_mem_cons.2 ⟨Or.inl rfl,
      List.forall_mem_cons.2 ⟨Or.inr rfl, fun e he => absurd he List.not_mem_nil⟩⟩⟩

/-- A variable that has the name of the effects writes over the message. -/
theorem message_written_over :
    ¬ ∀ (other : Registry Unit) (nodes : List WfNode) (ctx : WfContext), effectsOf ctx = [] →
      effectsOf (executeSteps plainRuntime (withPageSteps other) 0 nodes (ctx, ())).2.1 =
        (trace plainRuntime (withPageSteps other) 0 nodes (ctx, ())).filterMap
          (Executed.effect plainRuntime) := by
  intro h
  have hrun := h onlyVarSet [showsMessage, setsVariable "last" effectsVar] {} rfl
  cases hrun

/-! ### The steps of the engine -/

section

variable {σ : Type} (A : Adapter σ) (run : Runtime)

/-- The steps that the constructor of `WfEngine` registers. -/
def engineSteps : Registry σ := fun type => (Steps.registered A run type).map Steps.Step.behaviour

/-- The page steps are among them. -/
theorem withPageSteps_engineSteps : withPageSteps (engineSteps A run) = engineSteps A run := by
  funext type
  unfold withPageSteps pageStep
  split
  · next step hpage =>
      split at hpage
      all_goals first
        | (obtain rfl := Option.some.inj hpage; rfl)
        | cases hpage
  · rfl

/-- What the caller of the engine gets: the variables, where nothing failed. -/
def variablesOf (ended : Except Thrown Unit × (WfContext × σ)) : Except Thrown WfContext × σ :=
  (ended.1.map fun _ => ended.2.1, ended.2.2)

/-- **`executeNodes` is a run of these steps.** -/
theorem executeNodes_eq (i : Nat) (nodes : List WfNode) (ctx : WfContext) (s : σ) :
    executeNodes A run i nodes ctx s =
      variablesOf (executeSteps run (engineSteps A run) i nodes (ctx, s)) := by
  induction nodes generalizing i ctx s with
  | nil => rfl
  | cons node nodes ih =>
      cases hstep : Steps.registered A run node.type with
      | none =>
          have hnext : executeNode A run i node ctx s = (.ok ctx, s) := by
            rw [executeNode, hstep]
            rfl
          rw [executeNodes_next nodes hnext, ih, executeSteps, engineSteps, hstep]
          rfl
      | some step =>
          have hnode : executeNode A run i node ctx = step i (resolved run ctx node) ctx := by
            rw [executeNode, hstep]
          have hengine : engineSteps A run node.type = some step.behaviour := by
            rw [engineSteps, hstep, Option.map_some]
          rcases hrun : step i (resolved run ctx node) ctx s with ⟨(why | e) | ctx', s'⟩
          · rw [executeNodes_stop nodes (by rw [hnode, hrun])]
            simp only [executeSteps, hengine, Steps.Step.behaviour, hrun]
            rfl
          · rw [executeNodes_failed nodes (by rw [hnode, hrun])]
            simp only [executeSteps, hengine, Steps.Step.behaviour, hrun]
            rfl
          · rw [executeNodes_next nodes (by rw [hnode, hrun]), ih]
            simp only [executeSteps, hengine, Steps.Step.behaviour, hrun]

/-- The node, with its parameters resolved, stores something under the name of the effects. -/
def WritesEffects (node : WfNode) : Prop :=
  (node.type = "dbal.var.set" ∧ node.parameters.find? "key" = some (.str effectsVar)) ∨
    ∃ key, (key, Json.str effectsVar) ∈ node.outputs.fields.toList

/-- Under another name the effects are left alone. -/
theorem effectsOf_set {ctx : WfContext} {name : String} (h : name ≠ effectsVar) (value : Json) :
    effectsOf (ctx.set name value) = effectsOf ctx := by
  have hpath : ¬ WfContext.IsPathInto name effectsVar := by
    rintro ⟨rest, hrest⟩
    have hdot : '.' ∈ effectsVar.toList := by
      rw [hrest]
      simp
    exact absurd hdot (by decide)
  rw [effectsOf, effectsOf, WfContext.get_eq, WfContext.get_eq,
    WfContext.stored?_set_other (Ne.symm h) hpath]

theorem effectsOf_setOutputs {node : WfNode} (h : ¬ WritesEffects node) (value : Json)
    (ctx : WfContext) : effectsOf (Steps.setOutputs node value ctx) = effectsOf ctx := by
  unfold Steps.setOutputs
  split
  · next members houtputs =>
      refine List.foldlRecOn (motive := fun c => effectsOf c = effectsOf ctx) _ _ rfl ?_
      rintro c hc ⟨key, v⟩ hmem
      cases v with
      | str name =>
          have hname : name ≠ effectsVar := by
            rintro rfl
            exact h (Or.inr ⟨key, by rwa [houtputs]⟩)
          exact (effectsOf_set hname value).trans hc
      | _ => exact hc
  · rfl

/-- What a step makes of the variables: it leaves them as they are, stores what it found under the
names of its outputs, or sets the variable that it is told to. -/
inductive Stores (type : String) (node : WfNode) (ctx : WfContext) : WfContext → Prop
  | same : Stores type node ctx ctx
  | outputs (value : Json) : Stores type node ctx (Steps.setOutputs node value ctx)
  | variable {key : String} (value : Json) (htype : type = "dbal.var.set")
      (hkey : node.parameters.find? "key" = some (.str key)) :
      Stores type node ctx (ctx.set key value)

/-- A step that asks for something and goes on with the answer. -/
theorem returns_answer {α β : Type} {P : β → Prop} {call : Act WfThrown σ (Result α)}
    {f : Result α → Act WfThrown σ β} (herror : ∀ e, (f (.error e)).Returns P)
    (hok : ∀ a, (f (.ok a)).Returns P) : (call >>= f).Returns P := by
  refine .bind fun _ result _ _ => ?_
  cases result with
  | error e => exact herror e
  | ok a => exact hok a

theorem stringParam_find? {type key text : String} {node : WfNode}
    (h : Steps.stringParam type key node = .ok text) :
    node.parameters.find? key = some (.str text) := by
  unfold Steps.stringParam at h
  split at h
  · next hfind =>
      obtain rfl := Except.ok.inj h
      exact hfind
  · cases h

/-- **No step of the engine stores anything else**, but for the `page.*` steps. -/
theorem returns_registered {type : String} {step : Steps.Step σ}
    (hstep : Steps.registered A run type = some step) (hpage : pageStep (σ := σ) type = none)
    (i : Nat) (node : WfNode) (ctx : WfContext) :
    (step i node ctx).Returns (Stores type node ctx) := by
  unfold Steps.registered at hstep
  split at hstep
  case h_1 => cases hstep; exact .pure (.outputs _)
  case h_2 => cases hstep; exact .pure (.outputs _)
  case h_3 =>
    cases hstep
    refine .bind fun _ entity _ _ => returns_answer (fun _ => .throw _) fun row => ?_
    exact .bind fun _ _ _ _ => .pure (.outputs _)
  case h_4 =>
    cases hstep
    refine .bind fun _ entity _ _ => ?_
    split
    · exact .throw _
    · exact returns_answer (fun _ => .throw _) fun row => .pure (.outputs _)
  case h_5 =>
    cases hstep
    refine .bind fun _ entity _ _ => ?_
    exact returns_answer (fun _ => .throw _) fun found => .pure (.outputs _)
  case h_6 =>
    cases hstep
    refine .bind fun s key s' hkey => .pure (.variable _ rfl ?_)
    exact stringParam_find? (Prod.mk.inj hkey).1
  case h_7 => cases hstep; exact .pure .same
  case h_8 =>
    cases hstep
    refine .bind fun _ entity _ _ => .bind fun _ id _ _ => ?_
    exact returns_answer (fun _ => .throw _) fun row => .pure (.outputs _)
  case h_9 =>
    cases hstep
    refine .bind fun _ entity _ _ => .bind fun _ id _ _ => ?_
    exact returns_answer (fun _ => .throw _) fun removed => .pure (.outputs _)
  case h_10 =>
    cases hstep
    refine .bind fun _ entity _ _ => ?_
    exact returns_answer (fun _ => .throw _) fun found => .pure (.outputs _)
  case h_11 =>
    cases hstep
    refine .bind fun _ relation _ _ => ?_
    split
    · exact .pure .same
    · exact .throw _
  case h_18 => cases hstep
  all_goals cases hpage

theorem Stores.effectsOf_eq {type : String} {node : WfNode} {ctx ctx' : WfContext}
    (h : Stores type node ctx ctx') (htype : node.type = type) (hwrites : ¬ WritesEffects node) :
    effectsOf ctx' = effectsOf ctx := by
  cases h with
  | same => rfl
  | outputs value => exact effectsOf_setOutputs hwrites value ctx
  | @«variable» key value hset hkey =>
      refine effectsOf_set ?_ value
      rintro rfl
      exact hwrites (Or.inl ⟨htype.trans hset, hkey⟩)

/-- A step of the engine that does not write the effects keeps them. -/
theorem keepsEffects_of_not_writes {e : Executed σ} {step : Behaviour σ}
    (hwrites : ¬ WritesEffects (resolved run e.before.1 e.node))
    (hstep : engineSteps A run e.node.type = some step)
    (hrun : step e.position (resolved run e.before.1 e.node) e.before = (e.result, e.after)) :
    KeepsEffects e := by
  cases hpage : pageStep (σ := σ) e.node.type with
  | some page => exact Or.inl (by rw [hpage]; rfl)
  | none =>
      obtain ⟨step, hregistered, rfl⟩ := Option.map_eq_some_iff.1 hstep
      right
      unfold Steps.Step.behaviour at hrun
      split at hrun
      · next ctx' s' hok =>
          obtain ⟨-, hafter⟩ := Prod.mk.inj hrun
          have hstores := returns_registered A run hregistered hpage _ _ _ _ _ _ hok
          rw [← hafter]
          exact hstores.effectsOf_eq rfl hwrites
      · obtain ⟨-, hafter⟩ := Prod.mk.inj hrun
        rw [← hafter]

/-- **The effects of a workflow of the engine** are those of its `page.*` steps, where no step that
is executed is told to store something under their name. -/
theorem effects_of_workflow {nodes : List WfNode} {ctx : WfContext} {s : σ}
    (hnone : effectsOf ctx = [])
    (hwrites : ∀ e ∈ trace run (engineSteps A run) 0 nodes (ctx, s),
      ¬ WritesEffects (resolved run e.before.1 e.node)) :
    effectsOf (executeSteps run (engineSteps A run) 0 nodes (ctx, s)).2.1 =
      (trace run (engineSteps A run) 0 nodes (ctx, s)).filterMap (Executed.effect run) := by
  have hlog := isLog_trace run (engineSteps A run) 0 nodes (ctx, s)
  have hkeeps : ∀ e ∈ trace run (withPageSteps (engineSteps A run)) 0 nodes (ctx, s),
      KeepsEffects e := by
    rw [withPageSteps_engineSteps]
    intro e he
    obtain ⟨step, hstep, hrun⟩ := hlog.executed e he
    exact keepsEffects_of_not_writes A run (hwrites e he) hstep hrun
  have heffects := effectsOf_executeSteps hnone hkeeps
  rwa [withPageSteps_engineSteps] at heffects

end

end Workflow
end Dbal
