/-
# Listing the blobs to the end

A client that follows `next_token` until a page is not truncated.  The store in memory does not read
the token, and the one on the file system starts behind the first key that it has not returned: both
list everything exactly when everything is on the first page, and on the file system when no blob has
the name of a temporary file.
-/

import Mathlib.Data.List.Sort
import Dbal.Blob.FilesystemStorage
import Dbal.Blob.MemoryStorage

namespace Dbal
namespace Blob

open Dbal.Store

/-- The list is sorted, and what is in it are the stored keys with the prefix, each once. -/
structure ListsExactly (stored : String → Prop) (keyPrefix : Option String) (keys : List String) :
    Prop where
  sorted : keys.Pairwise (· < ·)
  mem_iff : ∀ key, key ∈ keys ↔ stored key ∧ hasPrefix keyPrefix key = true

/-- Following the tokens from none on ends, and gives exactly the stored keys with the prefix. -/
def ListsAll (list : ListOptions → BlobListResult) (options : ListOptions)
    (stored : String → Prop) : Prop :=
  ∃ items, Walk (fun token => (list { options with continuationToken := token }).page) none items ∧
    ListsExactly stored options.keyPrefix (items.map BlobMetadata.key)

/-! ### In memory -/

/-- The page that starts with what is given, over blobs that all have the prefix. -/
theorem memoryPage_eq {options : ListOptions} (blobs : List (String × BlobData))
    (items : List BlobMetadata) (hitems : items.length ≤ options.maxKeys) :
    memoryPage options blobs items =
      let matching := blobs.filter fun blob => hasPrefix options.keyPrefix blob.1
      let here := options.maxKeys - items.length
      { items := items ++ (matching.take here).map fun blob => makeBlobMetadata blob.1 blob.2
        nextToken := matching[here]?.map Prod.fst
        isTruncated := matching[here]?.isSome } := by
  induction blobs generalizing items with
  | nil => simp [memoryPage]
  | cons blob blobs ih =>
      obtain ⟨key, blob⟩ := blob
      unfold memoryPage
      split
      · next hstarts =>
          split
          · next hfull =>
              have hhere : options.maxKeys - items.length = 0 := by omega
              simp [hhere, hstarts]
          · next hroom =>
              have hhere : options.maxKeys - items.length =
                  options.maxKeys - (items.length + 1) + 1 := by omega
              rw [ih _ (by simp; omega)]
              simp [hstarts, hhere]
      · next hstarts =>
          rw [ih items hitems]
          simp [hstarts]

theorem memoryList_eq (store : Std.TreeMap String BlobData) (options : ListOptions) :
    memoryList store options =
      let matching := store.toList.filter fun blob => hasPrefix options.keyPrefix blob.1
      { items := (matching.take options.maxKeys).map fun blob => makeBlobMetadata blob.1 blob.2
        nextToken := matching[options.maxKeys]?.map Prod.fst
        isTruncated := matching[options.maxKeys]?.isSome } := by
  rw [memoryList, memoryPage_eq _ _ (Nat.zero_le _)]
  simp

/-- The keys of the map, in its order. -/
theorem listsExactly_toList (store : Std.TreeMap String BlobData) (keyPrefix : Option String) :
    ListsExactly (· ∈ store) keyPrefix
      ((store.toList.filter fun blob => hasPrefix keyPrefix blob.1).map Prod.fst) where
  sorted := by
    rw [List.pairwise_map]
    refine List.Pairwise.filter _ ?_
    exact store.ordered_keys_toList.imp fun h => compare_lt_iff_lt.1 h
  mem_iff := by
    intro key
    rw [List.mem_map]
    constructor
    · rintro ⟨blob, hblob, rfl⟩
      rw [List.mem_filter] at hblob
      refine ⟨?_, hblob.2⟩
      rw [Std.TreeMap.mem_iff_isSome_getElem?, Std.TreeMap.mem_toList_iff_getElem?_eq_some.1 hblob.1]
      rfl
    · rintro ⟨hkey, hstarts⟩
      obtain ⟨blob, hblob⟩ := Option.isSome_iff_exists.1
        (Std.TreeMap.mem_iff_isSome_getElem?.1 hkey)
      exact ⟨(key, blob), List.mem_filter.2
        ⟨Std.TreeMap.mem_toList_iff_getElem?_eq_some.2 hblob, hstarts⟩, rfl⟩

theorem length_filter_keys (store : Std.TreeMap String BlobData) (keyPrefix : Option String) :
    (store.toList.filter fun blob => hasPrefix keyPrefix blob.1).length =
      (store.keys.filter (hasPrefix keyPrefix)).length := by
  rw [← Std.TreeMap.map_fst_toList_eq_keys, List.filter_map, List.length_map]
  rfl

/-- **In memory** the listing comes to its end exactly when all keys fit on one page. -/
theorem memoryList_listsAll (store : Std.TreeMap String BlobData) (options : ListOptions) :
    ListsAll (memoryList store) options (· ∈ store) ↔
      (store.keys.filter (hasPrefix options.keyPrefix)).length ≤ options.maxKeys := by
  rw [← length_filter_keys]
  set matching := store.toList.filter fun blob => hasPrefix options.keyPrefix blob.1 with hmatching
  constructor
  · rintro ⟨all, hwalk, -⟩
    by_contra hmore
    have hnext := List.getElem?_eq_getElem (Nat.lt_of_not_le hmore)
    refine Walk.not_of_constant ((matching.take options.maxKeys).map fun blob =>
      makeBlobMetadata blob.1 blob.2) (some matching[options.maxKeys].1) (fun token => ?_)
      ⟨all, hwalk⟩
    rw [memoryList_eq]
    simp only [BlobListResult.page, ← hmatching, hnext]
    rfl
  · intro hfits
    have hnone : matching[options.maxKeys]? = none := List.getElem?_eq_none hfits
    refine ⟨matching.map fun blob => makeBlobMetadata blob.1 blob.2, .last ?_, ?_⟩
    · rw [memoryList_eq]
      simp only [BlobListResult.page, ← hmatching, hnone, List.take_of_length_le hfits]
      rfl
    · rw [List.map_map]
      exact listsExactly_toList store options.keyPrefix

/-! ### On the file system -/

theorem fileAt_keyOf (fs : FileSystem) {path : Path} (h : path ≠ []) :
    fs.fileAt (resolve (keyOf path)) = fs.files.lookup path := by
  rw [resolve_keyOf h]
  rfl

theorem mem_matchingKeys {fs : FileSystem} {keyPrefix : Option String} {key : String} :
    key ∈ matchingKeys keyPrefix fs ↔
      (∃ path ∈ fs.files, isTemp path = false ∧ keyOf path = key) ∧
        hasPrefix keyPrefix key = true := by
  rw [matchingKeys, List.mem_mergeSort, List.mem_filter, List.mem_map]
  simp [and_assoc, AList.mem_keys]

/-- The collected keys are sorted, and each is there once. -/
theorem matchingKeys_sorted (keyPrefix : Option String) (fs : FileSystem) :
    (matchingKeys keyPrefix fs).Pairwise (· < ·) := by
  have hle : (matchingKeys keyPrefix fs).Pairwise (· ≤ ·) := List.pairwise_mergeSort' _ _
  have hnodup : (matchingKeys keyPrefix fs).Nodup := by
    refine (List.mergeSort_perm _ _).nodup_iff.2 (List.Nodup.filter _ ?_)
    refine List.Nodup.map_on (fun path hpath path' hpath' hkey => ?_)
      (fs.files.keys_nodup.filter _)
    exact keyOf_injective (FileSystem.ne_nil_of_mem (List.mem_filter.1 hpath).1)
      (FileSystem.ne_nil_of_mem (List.mem_filter.1 hpath').1) hkey
  exact (List.pairwise_and_iff.2 ⟨hle, hnodup⟩).imp fun h => lt_of_le_of_ne h.1 h.2

theorem fileAt_isSome {fs : FileSystem} {keyPrefix : Option String} {key : String}
    (h : key ∈ matchingKeys keyPrefix fs) : (fs.fileAt (resolve key)).isSome := by
  obtain ⟨⟨path, hpath, -, rfl⟩, -⟩ := mem_matchingKeys.1 h
  rw [fileAt_keyOf fs (FileSystem.ne_nil_of_mem hpath), AList.lookup_isSome]
  exact hpath

theorem ne_empty_of_mem_matchingKeys {fs : FileSystem} {keyPrefix : Option String} {key : String}
    (h : key ∈ matchingKeys keyPrefix fs) : key ≠ "" := by
  obtain ⟨⟨path, hpath, -, rfl⟩, -⟩ := mem_matchingKeys.1 h
  have hne := FileSystem.ne_nil_of_mem hpath
  intro hempty
  have hresolve := resolve_keyOf hne
  rw [hempty] at hresolve
  exact hne (congrArg Location.path hresolve).symm

/-- The page behind the token: as many keys as fit, and the next one as the token. -/
theorem fsPage_past {fs : FileSystem} (continuation : String) {maxKeys : Nat}
    (keys : List String) (items : List BlobMetadata) (hkeys : ∀ key ∈ keys, (fs.fileAt (resolve key)).isSome)
    (hitems : items.length ≤ maxKeys) :
    (fsPage fs continuation maxKeys keys true items).items.map BlobMetadata.key =
        items.map BlobMetadata.key ++ keys.take (maxKeys - items.length) ∧
      (fsPage fs continuation maxKeys keys true items).nextToken =
        keys[maxKeys - items.length]? ∧
      (fsPage fs continuation maxKeys keys true items).isTruncated =
        keys[maxKeys - items.length]?.isSome := by
  induction keys generalizing items with
  | nil => simp [fsPage]
  | cons key keys ih =>
      obtain ⟨file, hfile⟩ := Option.isSome_iff_exists.1 (hkeys key (by simp))
      unfold fsPage
      simp only [Bool.not_true, Bool.false_and, Bool.false_eq_true, if_false]
      split
      · next hfull =>
          have hhere : maxKeys - items.length = 0 := by omega
          simp [hhere]
      · next hroom =>
          have hhere : maxKeys - items.length = maxKeys - (items.length + 1) + 1 := by omega
          have hrest := ih (items ++ [listedBlob key file])
            (fun other hother => hkeys other (by simp [hother])) (by simp; omega)
          simp only [hfile]
          simpa [hhere, listedBlob] using hrest

/-- The keys up to the token are passed over. -/
theorem fsPage_seek (fs : FileSystem) (continuation : String) (maxKeys : Nat) (keys : List String)
    (items : List BlobMetadata) :
    fsPage fs continuation maxKeys keys false items =
      fsPage fs continuation maxKeys
        (keys.dropWhile fun key => !decide (continuation < key)) true items := by
  induction keys with
  | nil => rfl
  | cons key keys ih =>
      by_cases hlt : continuation < key
      · rw [List.dropWhile_cons_of_neg (by simp [hlt])]
        simp [fsPage, hlt]
      · rw [List.dropWhile_cons_of_pos (by simp [hlt]), ← ih]
        conv_lhs => unfold fsPage
        simp [hlt]

/-- The keys that come behind a token. -/
def keysAfter (token : Option String) (keys : List String) : List String :=
  if token.getD "" = "" then keys
  else keys.dropWhile fun key => !decide (token.getD "" < key)

theorem keysAfter_sublist (token : Option String) (keys : List String) :
    (keysAfter token keys).Sublist keys := by
  unfold keysAfter
  split
  · exact List.Sublist.refl _
  · exact List.dropWhile_sublist _

/-- What comes behind a token is greater. -/
theorem lt_of_mem_keysAfter {token : String} (htoken : token ≠ "") {keys : List String}
    (hsorted : keys.Pairwise (· < ·)) {key : String} (h : key ∈ keysAfter (some token) keys) :
    token < key := by
  rw [keysAfter, if_neg (by simpa using htoken)] at h
  induction keys with
  | nil => cases h
  | cons first keys ih =>
      obtain ⟨hfirst, hrest⟩ := List.pairwise_cons.1 hsorted
      by_cases hlt : token < first
      · rw [List.dropWhile_cons_of_neg (by simp [hlt])] at h
        rcases List.mem_cons.1 h with rfl | h
        · exact hlt
        · exact hlt.trans (hfirst key h)
      · rw [List.dropWhile_cons_of_pos (by simp [hlt])] at h
        exact ih hrest h

/-- A page of the file system, for any token. -/
theorem fsList_page (fs : FileSystem) (options : ListOptions) (token : Option String) :
    let keys := keysAfter token (matchingKeys options.keyPrefix fs)
    let page := (fsList { options with continuationToken := token } fs).page
    page.1.map BlobMetadata.key = keys.take options.maxKeys ∧
      page.2 = keys[options.maxKeys]?.map some := by
  intro keys page
  have hlist : fsList { options with continuationToken := token } fs =
      fsPage fs (token.getD "") options.maxKeys keys true [] := by
    unfold fsList
    by_cases hempty : token.getD "" = ""
    · simp [keys, keysAfter, hempty]
    · simp [keys, keysAfter, hempty, fsPage_seek]
  have hkeys : ∀ key ∈ keys, (fs.fileAt (resolve key)).isSome := fun key hkey =>
    fileAt_isSome ((keysAfter_sublist token _).subset hkey)
  obtain ⟨hitems, hnext, htruncated⟩ := fsPage_past (token.getD "") keys [] hkeys
    (Nat.zero_le options.maxKeys)
  simp only [List.map_nil, List.nil_append, List.length_nil, Nat.sub_zero] at hitems hnext htruncated
  simp only [page, BlobListResult.page, hlist, hitems, hnext, htruncated]
  cases keys[options.maxKeys]? <;> simp

/-- What a walk from a token lists comes from behind it. -/
theorem mem_of_walk {fs : FileSystem} {options : ListOptions} {token : Option String}
    {items : List BlobMetadata} (h : Walk (fun token =>
      (fsList { options with continuationToken := token } fs).page) token items) :
    ∀ blob ∈ items, blob.key ∈ matchingKeys options.keyPrefix fs ∧
      ∀ t, token = some t → t ≠ "" → t < blob.key := by
  have hsorted := matchingKeys_sorted options.keyPrefix fs
  refine h.forall_mem (P := fun token blob => blob.key ∈ matchingKeys options.keyPrefix fs ∧
    ∀ t, token = some t → t ≠ "" → t < blob.key) (fun token blob hblob => ?_)
    (fun token next blob hpage hnext => ?_)
  · obtain ⟨hitems, -⟩ := fsList_page fs options token
    have hkey : blob.key ∈ keysAfter token (matchingKeys options.keyPrefix fs) :=
      List.mem_of_mem_take (hitems ▸ List.mem_map_of_mem hblob)
    refine ⟨(keysAfter_sublist token _).subset hkey, fun t htoken ht => ?_⟩
    subst htoken
    exact lt_of_mem_keysAfter ht hsorted hkey
  · obtain ⟨-, hsecond⟩ := fsList_page fs options token
    rw [hsecond, Option.map_eq_some_iff] at hpage
    obtain ⟨t', ht', rfl⟩ := hpage
    have hmem := List.mem_of_getElem? ht'
    refine ⟨hnext.1, fun t htoken ht => ?_⟩
    subst htoken
    have hfirst := lt_of_mem_keysAfter ht hsorted hmem
    exact hfirst.trans (hnext.2 t' rfl
      (ne_empty_of_mem_matchingKeys ((keysAfter_sublist _ _).subset hmem)))

/-- The blobs of the file system. -/
def IsStored (fs : FileSystem) (key : String) : Prop := ∃ path ∈ fs.files, keyOf path = key

/-- No blob with the prefix has the name of a temporary file. -/
def NoTempBlobs (fs : FileSystem) (keyPrefix : Option String) : Prop :=
  ∀ path ∈ fs.files, hasPrefix keyPrefix (keyOf path) = true → isTemp path = false

/-- Without such names, the collected keys are the stored ones. -/
theorem listsExactly_matchingKeys {fs : FileSystem} {keyPrefix : Option String}
    (h : NoTempBlobs fs keyPrefix) :
    ListsExactly (IsStored fs) keyPrefix (matchingKeys keyPrefix fs) where
  sorted := matchingKeys_sorted keyPrefix fs
  mem_iff := by
    intro key
    rw [mem_matchingKeys]
    constructor
    · rintro ⟨⟨path, hpath, -, hkey⟩, hstarts⟩
      exact ⟨⟨path, hpath, hkey⟩, hstarts⟩
    · rintro ⟨⟨path, hpath, rfl⟩, hstarts⟩
      exact ⟨⟨path, hpath, h path hpath hstarts, rfl⟩, hstarts⟩

theorem length_matchingKeys {fs : FileSystem} {keyPrefix : Option String}
    (h : NoTempBlobs fs keyPrefix) : (matchingKeys keyPrefix fs).length =
      ((fs.files.keys.map keyOf).filter (hasPrefix keyPrefix)).length := by
  rw [matchingKeys, List.length_mergeSort, List.filter_map, List.filter_map, List.length_map,
    List.length_map, List.filter_filter]
  congr 1
  refine List.filter_congr fun path hpath => ?_
  cases hstarts : (hasPrefix keyPrefix ∘ keyOf) path with
  | false => rfl
  | true => simp [h path hpath hstarts]

/-- **On the file system** the listing comes to its end, and the pages lose and repeat nothing,
exactly when no blob is named like a temporary file and all keys fit on one page. -/
theorem fsList_listsAll (fs : FileSystem) (options : ListOptions) :
    ListsAll (fun options => fsList options fs) options (IsStored fs) ↔
      NoTempBlobs fs options.keyPrefix ∧
        ((fs.files.keys.map keyOf).filter (hasPrefix options.keyPrefix)).length ≤
          options.maxKeys := by
  constructor
  · rintro ⟨items, hwalk, hexact⟩
    have hnotemp : NoTempBlobs fs options.keyPrefix := by
      intro path hpath hstarts
      have hlisted := (hexact.mem_iff (keyOf path)).2 ⟨⟨path, hpath, rfl⟩, hstarts⟩
      obtain ⟨blob, hblob, hkey⟩ := List.mem_map.1 hlisted
      obtain ⟨⟨path', hpath', htemp, hkey'⟩, -⟩ :=
        mem_matchingKeys.1 (mem_of_walk hwalk blob hblob).1
      obtain rfl : path' = path := keyOf_injective (FileSystem.ne_nil_of_mem hpath')
        (FileSystem.ne_nil_of_mem hpath) (hkey'.trans hkey)
      exact htemp
    refine ⟨hnotemp, ?_⟩
    rw [← length_matchingKeys hnotemp]
    by_contra hmore
    -- the first key that does not fit is the token, and no page has it
    have hfirst := fsList_page fs options none
    simp only [keysAfter, Option.getD_none, if_true] at hfirst
    rw [List.getElem?_eq_getElem (Nat.lt_of_not_le hmore)] at hfirst
    set lost := (matchingKeys options.keyPrefix fs)[options.maxKeys] with hlost
    have hmem : lost ∈ matchingKeys options.keyPrefix fs := List.getElem_mem _
    have hlisted := (hexact.mem_iff lost).2
      (((listsExactly_matchingKeys hnotemp).mem_iff lost).1 hmem)
    cases hwalk with
    | last hpage =>
        rw [hpage] at hfirst
        cases hfirst.2
    | next hpage hrest =>
        rw [hpage] at hfirst
        obtain ⟨hitems, hnext⟩ := hfirst
        obtain rfl := Option.some.inj hnext
        rw [List.map_append, List.mem_append, hitems] at hlisted
        rcases hlisted with hbefore | hafter
        · have hsorted := matchingKeys_sorted options.keyPrefix fs
          rw [← List.take_append_drop options.maxKeys (matchingKeys options.keyPrefix fs),
            List.pairwise_append] at hsorted
          have hdrop : lost ∈ (matchingKeys options.keyPrefix fs).drop options.maxKeys := by
            rw [List.drop_eq_getElem_cons (Nat.lt_of_not_le hmore)]
            exact List.mem_cons_self
          exact lt_irrefl _ (hsorted.2.2 lost hbefore lost hdrop)
        · obtain ⟨blob, hblob, hkey⟩ := List.mem_map.1 hafter
          have hlt := (mem_of_walk hrest blob hblob).2 lost rfl
            (ne_empty_of_mem_matchingKeys hmem)
          rw [hkey] at hlt
          exact lt_irrefl _ hlt
  · rintro ⟨hnotemp, hfits⟩
    rw [← length_matchingKeys hnotemp] at hfits
    obtain ⟨hitems, hnext⟩ := fsList_page fs options none
    simp only [keysAfter, Option.getD_none, if_true] at hitems hnext
    rw [List.take_of_length_le hfits] at hitems
    rw [List.getElem?_eq_none hfits] at hnext
    refine ⟨_, .last (Prod.ext rfl hnext), ?_⟩
    rw [hitems]
    exact listsExactly_matchingKeys hnotemp

/-- **Listing to the end**, for both stores. -/
theorem list_listsAll_iff (store : Std.TreeMap String BlobData) (fs : FileSystem)
    (options : ListOptions) :
    (ListsAll (memoryList store) options (· ∈ store) ↔
      (store.keys.filter (hasPrefix options.keyPrefix)).length ≤ options.maxKeys) ∧
    (ListsAll (fun options => fsList options fs) options (IsStored fs) ↔
      NoTempBlobs fs options.keyPrefix ∧
        ((fs.files.keys.map keyOf).filter (hasPrefix options.keyPrefix)).length ≤
          options.maxKeys) :=
  ⟨memoryList_listsAll store options, fsList_listsAll fs options⟩

/-- Two blobs, `a` and `b`. -/
def twoBlobs : Std.TreeMap String BlobData :=
  .ofList [("a", BlobData.mk [1] "text/plain" "" 0 []), ("b", BlobData.mk [2] "text/plain" "" 0 [])]

def nameA : Name := ⟨['a'], by decide, by decide, by decide, by decide⟩

def nameB : Name := ⟨['b'], by decide, by decide, by decide, by decide⟩

def twoFiles : FileSystem where
  files := AList.insert [nameB] (File.mk [2] 0) (AList.insert [nameA] (File.mk [1] 0) ∅)
  dirs := []
  root_not_file := by decide
  dirs_not_files := by simp

/-- With pages of one key, the listing in memory never ends, and the one of the files ends after `a`
without `b`. -/
theorem list_loses_second :
    ¬ ListsAll (memoryList twoBlobs) { maxKeys := 1 } (· ∈ twoBlobs) ∧
    ¬ ListsAll (fun options => fsList options twoFiles) { maxKeys := 1 } (IsStored twoFiles) := by
  rw [memoryList_listsAll, fsList_listsAll]
  exact ⟨by decide +kernel, fun h => absurd h.2 (by decide +kernel)⟩

end Blob
end Dbal
