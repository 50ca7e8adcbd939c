/-
# The blobs as a map

What the blob store on the file system is for: a map from keys to bytes.  Over keys that are the text
of their own path and that no listing hides, every call answers as the map does and changes the map
where the map changes; the temporary file of an upload has the name of no such key.
-/

import Dbal.Blob.BlobListing

namespace Dbal
namespace Blob

/-! ### The map and its calls -/

/-- Bytes under keys. -/
abbrev BlobMap := String → Option (List UInt8)

/-- A call of the store, with the time of those that write. -/
inductive BlobCall where
  | upload (key : String) (data : List UInt8) (options : UploadOptions) (now : Int)
  | copy (sourceKey destKey : String) (now : Int)
  | delete (key : String)
  | download (key : String) (options : DownloadOptions)
  | list (options : ListOptions)

/-- What a call answers. -/
inductive BlobAnswer where
  | written (result : Result BlobMetadata)
  | deleted (result : Result Bool)
  | bytes (result : Result (List UInt8))
  | listed (result : BlobListResult)

/-- A call on the file system. -/
def perform (hash : List UInt8 → UInt64) (fs : FileSystem) : BlobCall → BlobAnswer × FileSystem
  | .upload key data options now =>
      (.written (fsUpload hash now key data options fs).1,
        (fsUpload hash now key data options fs).2)
  | .copy sourceKey destKey now =>
      (.written (fsCopy hash now sourceKey destKey fs).1, (fsCopy hash now sourceKey destKey fs).2)
  | .delete key => (.deleted (fsDelete key fs).1, (fsDelete key fs).2)
  | .download key options => (.bytes (fsDownload key options fs), fs)
  | .list options => (.listed (fsList options fs), fs)

namespace BlobMap

/-- The map after a call that was answered so. -/
def after (m : BlobMap) : BlobCall → BlobAnswer → BlobMap
  | .upload key data _ _, .written (.ok _) => Function.update m key (some data)
  | .copy sourceKey destKey _, .written (.ok _) => Function.update m destKey (m sourceKey)
  | .delete key, .deleted (.ok _) => Function.update m key none
  | _, _ => m

/-- The answer is one that the map gives: a copy has a source, a download has the bytes of its key,
and a listing the stored keys behind its token, as many as fit. -/
def Answers (m : BlobMap) : BlobCall → BlobAnswer → Prop
  | .upload _ _ _ _, .written _ => True
  | .copy sourceKey _ _, .written (.ok _) => m sourceKey ≠ none
  | .copy _ _ _, .written (.error _) => True
  | .delete _, .deleted _ => True
  | .download key options, .bytes result =>
      match m key with
      | some data => result = readRange data options
      | none => ∃ e, result = .error e
  | .list options, .listed result =>
      ∃ keys, ListsExactly (fun key => m key ≠ none) options.keyPrefix keys ∧
        result.items.map BlobMetadata.key =
          (keysAfter options.continuationToken keys).take options.maxKeys
  | _, _ => False

end BlobMap

/-- The calls follow the map: every answer is one of the map's, and the map goes on with it. -/
def Follows (hash : List UInt8 → UInt64) : FileSystem → BlobMap → List BlobCall → Prop
  | _, _, [] => True
  | fs, m, call :: calls =>
      m.Answers call (perform hash fs call).1 ∧
        Follows hash (perform hash fs call).2 (m.after call (perform hash fs call).1) calls

/-! ### Plain keys -/

/-- The key is the text of its own path, and no listing hides it. -/
def isPlainKey (key : String) : Bool :=
  (resolve key).path ≠ [] && keyOf (resolve key).path = key && !isTemp (resolve key).path

/-- The keys of a call, where they are accepted, are plain. -/
def BlobCall.IsPlain : BlobCall → Prop
  | .upload key _ _ _ | .delete key | .download key _ =>
      isKeySafe key = true → isPlainKey key = true
  | .copy sourceKey destKey _ =>
      isKeySafe sourceKey = true → isKeySafe destKey = true →
        isPlainKey sourceKey = true ∧ isPlainKey destKey = true
  | .list _ => True

/-- What the files hold under the accepted plain keys. -/
def contents (fs : FileSystem) : BlobMap := fun key =>
  if isKeySafe key && isPlainKey key then
    (fs.files.lookup (resolve key).path).map File.bytes
  else none

/-- Every file has an accepted key that is listed. -/
def FileSystem.Clean (fs : FileSystem) : Prop :=
  ∀ path ∈ fs.files, isTemp path = false ∧ isKeySafe (keyOf path) = true

theorem isPlainKey_iff {key : String} : isPlainKey key = true ↔
    ∃ path, path ≠ [] ∧ keyOf path = key ∧ isTemp path = false := by
  unfold isPlainKey
  constructor
  · intro h
    exact ⟨(resolve key).path, by simpa [and_assoc] using h⟩
  · rintro ⟨path, hpath, rfl, htemp⟩
    simp [resolve_keyOf hpath, hpath, htemp]

/-- A path whose text is an accepted key that is not hidden. -/
structure PlainPath (path : Path) : Prop where
  ne_nil : path ≠ []
  not_temp : isTemp path = false
  safe : isKeySafe (keyOf path) = true

theorem exists_plainPath {key : String} (hsafe : isKeySafe key = true)
    (hplain : isPlainKey key = true) : ∃ path, PlainPath path ∧ keyOf path = key := by
  obtain ⟨path, hpath, rfl, htemp⟩ := isPlainKey_iff.1 hplain
  exact ⟨path, ⟨hpath, htemp, hsafe⟩, rfl⟩

theorem contents_keyOf (fs : FileSystem) {path : Path} (h : PlainPath path) :
    contents fs (keyOf path) = (fs.files.lookup path).map File.bytes := by
  have hplain : isPlainKey (keyOf path) = true :=
    isPlainKey_iff.2 ⟨path, h.ne_nil, rfl, h.not_temp⟩
  rw [contents, resolve_keyOf h.ne_nil]
  simp [h.safe, hplain]

/-- What the map holds, it holds under the text of a file's path. -/
theorem contents_eq_some {fs : FileSystem} {key : String} {data : List UInt8} :
    contents fs key = some data ↔
      ∃ path file, PlainPath path ∧ keyOf path = key ∧ fs.files.lookup path = some file ∧
        file.bytes = data := by
  constructor
  · intro h
    unfold contents at h
    split at h
    · next hkey =>
        rw [Bool.and_eq_true] at hkey
        obtain ⟨path, hpath, rfl⟩ := exists_plainPath hkey.1 hkey.2
        rw [resolve_keyOf hpath.ne_nil, Option.map_eq_some_iff] at h
        obtain ⟨file, hfile, hdata⟩ := h
        exact ⟨path, file, hpath, rfl, hfile, hdata⟩
    · cases h
  · rintro ⟨path, file, hpath, rfl, hfile, rfl⟩
    rw [contents_keyOf fs hpath, hfile]
    rfl

/-- The map depends on the files under plain paths only. -/
theorem contents_congr {fs fs' : FileSystem}
    (h : ∀ path, PlainPath path → fs.files.lookup path = fs'.files.lookup path) :
    contents fs = contents fs' := by
  funext key
  unfold contents
  split
  · next hkey =>
      rw [Bool.and_eq_true] at hkey
      obtain ⟨path, hpath, rfl⟩ := exists_plainPath hkey.1 hkey.2
      rw [resolve_keyOf hpath.ne_nil, h path hpath]
  · rfl

/-- A plain path that is given other bytes, with the other plain paths as they are. -/
theorem contents_update (fs : FileSystem) {fs' : FileSystem} {path : Path} (hpath : PlainPath path)
    (h : ∀ other, PlainPath other → other ≠ path →
      fs'.files.lookup other = fs.files.lookup other) :
    contents fs' = Function.update (contents fs) (keyOf path)
      ((fs'.files.lookup path).map File.bytes) := by
  funext key
  by_cases hkey : key = keyOf path
  · subst hkey
    rw [Function.update_self, contents_keyOf fs' hpath]
  · rw [Function.update_of_ne hkey]
    unfold contents
    split
    · next hplain =>
        rw [Bool.and_eq_true] at hplain
        obtain ⟨other, hother, rfl⟩ := exists_plainPath hplain.1 hplain.2
        have hne : other ≠ path := by
          rintro rfl
          exact hkey rfl
        rw [resolve_keyOf hother.ne_nil, h other hother hne]
    · rfl

/-! ### Temporary files -/

/-- The temporary file of a plain key is hidden, so it has the name of no plain key. -/
theorem exists_tempPath {path : Path} (h : path ≠ []) :
    ∃ temp, resolve (tempPath (keyOf path)) = ⟨temp, .name⟩ ∧ isTemp temp = true := by
  obtain ⟨front, last, hpath⟩ := (List.eq_nil_or_concat path).resolve_left h
  rw [List.concat_eq_append] at hpath
  subst hpath
  have hmore : '/' ∉ ".tmp".toList ∧ '\x00' ∉ ".tmp".toList ∧ ".tmp".toList.length ≠ 0 := by
    decide
  refine ⟨front ++ [last.append ".tmp".toList hmore], ?_, ?_⟩
  · rw [tempPath, keyOf_append front last ".tmp" hmore]
    exact resolve_keyOf (by simp)
  · have hpos := List.length_pos_iff.2 last.ne_nil
    have hlength : ".tmp".toList.length = 4 := by decide
    simp only [isTemp, isTempName, List.getLast?_concat, Option.any_some, Name.append,
      List.length_append, hlength, Bool.and_eq_true, decide_eq_true_eq, List.isSuffixOf_iff_suffix]
    exact ⟨by omega, List.suffix_append _ _⟩

theorem PlainPath.ne_temp {path temp : Path} (h : PlainPath path) (htemp : isTemp temp = true) :
    path ≠ temp := by
  rintro rfl
  rw [h.not_temp] at htemp
  cases htemp

/-! ### What the operations do to the files -/

section Files

variable {fs fs' : FileSystem} {location source target : Location} {file : File}

theorem createDirectories_files (h : fs.createDirectories location = .ok fs') :
    fs'.files = fs.files := by
  unfold FileSystem.createDirectories at h
  split at h
  · cases h
    rfl
  · cases h

theorem write_files (h : fs.write location file = some fs') :
    fs'.files = fs.files.insert location.path file := by
  unfold FileSystem.write at h
  split at h
  · split at h
    · cases h
      rfl
    · cases h
  · cases h

theorem rename_files (hsource : fs.fileAt source = some file) (hne : source.path ≠ target.path)
    (h : fs.rename source target = .ok fs') :
    fs'.files = (fs.files.insert target.path file).erase source.path := by
  unfold FileSystem.rename at h
  rw [hsource] at h
  dsimp only at h
  split at h
  · split at h
    · cases h
    · cases h
      rfl
  · cases h

theorem copyFile_files {now : Int} (h : fs.copyFile source target now = .ok fs') :
    ∃ file, fs.fileAt source = some file ∧
      fs'.files = fs.files.insert target.path { file with lastWrite := now } := by
  unfold FileSystem.copyFile at h
  split at h
  · cases h
  · next file hfile =>
      split at h
      · split at h
        · cases h
        · split at h
          · cases h
          · cases h
            exact ⟨file, hfile, rfl⟩
      · cases h

/-- `remove` leaves the file of a directory's path, which is none, or takes away the file. -/
theorem remove_files (h : fs.remove location = .ok fs') :
    fs'.files = if fs.isDirectory location.path then fs.files
      else fs.files.erase location.path := by
  unfold FileSystem.remove at h
  split at h
  · next hdir =>
      rw [if_pos hdir]
      split at h
      · cases h
      · split at h
        · cases h
          rfl
        · cases h
  · next hdir =>
      rw [if_neg hdir]
      split at h
      · cases h
        rfl
      · cases h

theorem removeEmptyParents_files (fuel : Nat) (parent : String) (fs : FileSystem) :
    (removeEmptyParents fuel parent fs).files = fs.files := by
  induction fuel generalizing parent fs with
  | zero => rfl
  | succ fuel ih =>
      unfold removeEmptyParents
      split
      · next hempty =>
          have hdir : fs.isDirectory (resolve parent).path = true := by
            simp only [FileSystem.isEmpty, Bool.and_eq_true] at hempty
            exact hempty.2.1.1
          cases hremove : fs.remove (resolve parent) with
          | error what => rfl
          | ok removed =>
              dsimp only
              rw [ih, remove_files hremove, if_pos hdir]
      · rfl

end Files

/-! ### Every call follows the map -/

section Calls

variable {hash : List UInt8 → UInt64} {fs : FileSystem}

/-- What a call keeps and how it changes the map. -/
structure StepsTo (fs' : FileSystem) (m : BlobMap) : Prop where
  clean : fs'.Clean
  contents_eq : contents fs' = m

theorem stepsTo_of_files {fs' : FileSystem} (hclean : fs.Clean) (h : fs'.files = fs.files) :
    StepsTo fs' (contents fs) where
  clean := fun path hpath => hclean path (h ▸ hpath)
  contents_eq := contents_congr fun path _ => by rw [h]

/-- A hidden file that is written and taken away again leaves nothing. -/
theorem stepsTo_of_temp {fs' : FileSystem} (hclean : fs.Clean) {temp : Path} (file : File)
    (htemp : isTemp temp = true) (h : fs'.files = (fs.files.insert temp file).erase temp) :
    StepsTo fs' (contents fs) where
  clean := by
    intro path hpath
    rw [show path ∈ fs'.files ↔ path ∈ (fs.files.insert temp file).erase temp by rw [h]] at hpath
    simp only [AList.mem_erase, AList.mem_insert] at hpath
    exact hclean path (hpath.2.resolve_left hpath.1)
  contents_eq := contents_congr fun path hpath => by
    have hne := hpath.ne_temp htemp
    rw [h, AList.lookup_erase_ne hne, AList.lookup_insert_ne hne]

/-- A plain path is given new bytes. -/
theorem stepsTo_of_insert {fs' : FileSystem} (hclean : fs.Clean) {path : Path} (file : File)
    (hpath : PlainPath path) (hmem : ∀ other ∈ fs'.files, other = path ∨ other ∈ fs.files)
    (hlookup : fs'.files.lookup path = some file)
    (hothers : ∀ other, PlainPath other → other ≠ path →
      fs'.files.lookup other = fs.files.lookup other) :
    StepsTo fs' (Function.update (contents fs) (keyOf path) (some file.bytes)) where
  clean := by
    intro other hother
    rcases hmem other hother with rfl | hother
    · exact ⟨hpath.not_temp, hpath.safe⟩
    · exact hclean other hother
  contents_eq := by
    rw [contents_update fs hpath hothers, hlookup]
    rfl

theorem upload_stepsTo (hclean : fs.Clean) (key : String) (data : List UInt8)
    (options : UploadOptions) (now : Int) (hplain : (BlobCall.upload key data options now).IsPlain) :
    StepsTo (fsUpload hash now key data options fs).2 ((contents fs).after
      (.upload key data options now) (.written (fsUpload hash now key data options fs).1)) := by
  have hsame : StepsTo fs (contents fs) := ⟨hclean, rfl⟩
  unfold fsUpload
  split
  · exact hsame
  · next hsafe =>
      rw [Bool.not_eq_true, Bool.not_eq_false'] at hsafe
      obtain ⟨path, hpath, rfl⟩ := exists_plainPath hsafe (hplain hsafe)
      obtain ⟨temp, htempAt, htemp⟩ := exists_tempPath hpath.ne_nil
      have hne : temp ≠ path := (hpath.ne_temp htemp).symm
      split
      · exact hsame
      · cases hcreate : fs.createDirectories (resolve (parentPath (keyOf path))) with
        | error what => exact hsame
        | ok created =>
            have hcreated := createDirectories_files hcreate
            dsimp only
            cases hwrite : created.write (resolve (tempPath (keyOf path))) ⟨data, now⟩ with
            | none => exact stepsTo_of_files hclean hcreated
            | some written =>
                have hwritten := write_files hwrite
                rw [htempAt, hcreated] at hwritten
                dsimp only at hwritten ⊢
                have hfile : written.fileAt (resolve (tempPath (keyOf path))) =
                    some ⟨data, now⟩ := by
                  rw [htempAt, FileSystem.fileAt, if_pos rfl, hwritten]
                  exact AList.lookup_insert _
                cases hrename : written.rename (resolve (tempPath (keyOf path)))
                    (resolve (keyOf path)) with
                | error what =>
                    refine stepsTo_of_temp hclean ⟨data, now⟩ htemp ?_
                    show (written.files.erase _) = _
                    rw [htempAt, hwritten]
                | ok renamed =>
                    have hrenamed := rename_files hfile
                      (by rw [htempAt, resolve_keyOf hpath.ne_nil]; exact hne) hrename
                    rw [htempAt, resolve_keyOf hpath.ne_nil, hwritten] at hrenamed
                    refine stepsTo_of_insert hclean ⟨data, now⟩ hpath ?_ ?_ ?_
                    · intro other hother
                      rw [show other ∈ renamed.files ↔ _ by rw [hrenamed]] at hother
                      simp only [AList.mem_erase, AList.mem_insert] at hother
                      obtain ⟨hother, h | h | h⟩ := hother
                      · exact Or.inl h
                      · exact absurd h hother
                      · exact Or.inr h
                    · rw [hrenamed, AList.lookup_erase_ne hne.symm, AList.lookup_insert]
                    · intro other hother hother'
                      rw [hrenamed, AList.lookup_erase_ne (hother.ne_temp htemp),
                        AList.lookup_insert_ne hother', AList.lookup_insert_ne
                          (hother.ne_temp htemp)]

theorem fileAt_contents {path : Path} (hpath : PlainPath path) {file : File}
    (h : fs.fileAt (resolve (keyOf path)) = some file) :
    contents fs (keyOf path) = some file.bytes := by
  rw [fileAt_keyOf fs hpath.ne_nil] at h
  rw [contents_keyOf fs hpath, h]
  rfl

theorem copy_stepsTo (hclean : fs.Clean) (sourceKey destKey : String) (now : Int)
    (hplain : (BlobCall.copy sourceKey destKey now).IsPlain) :
    StepsTo (fsCopy hash now sourceKey destKey fs).2 ((contents fs).after
      (.copy sourceKey destKey now) (.written (fsCopy hash now sourceKey destKey fs).1)) ∧
    (contents fs).Answers (.copy sourceKey destKey now)
      (.written (fsCopy hash now sourceKey destKey fs).1) := by
  have hsame : StepsTo fs (contents fs) := ⟨hclean, rfl⟩
  unfold fsCopy
  split
  · exact ⟨hsame, trivial⟩
  · next hsource =>
      rw [Bool.not_eq_true, Bool.not_eq_false'] at hsource
      split
      · exact ⟨hsame, trivial⟩
      · next hdest =>
          rw [Bool.not_eq_true, Bool.not_eq_false'] at hdest
          obtain ⟨hplain, hplain'⟩ := hplain hsource hdest
          obtain ⟨path, hpath, rfl⟩ := exists_plainPath hsource hplain
          obtain ⟨path', hpath', rfl⟩ := exists_plainPath hdest hplain'
          split
          · exact ⟨hsame, trivial⟩
          · split
            · exact ⟨hsame, trivial⟩
            · cases hcreate : fs.createDirectories (resolve (parentPath (keyOf path'))) with
              | error what => exact ⟨hsame, trivial⟩
              | ok created =>
                  have hcreated := createDirectories_files hcreate
                  have hstep := stepsTo_of_files hclean hcreated
                  dsimp only
                  cases hcopy : created.copyFile (resolve (keyOf path)) (resolve (keyOf path'))
                      now with
                  | error what => exact ⟨hstep, trivial⟩
                  | ok copied =>
                      obtain ⟨file, hfile, hcopied⟩ := copyFile_files hcopy
                      rw [resolve_keyOf hpath'.ne_nil, hcreated] at hcopied
                      have hdata := fileAt_contents hpath hfile
                      rw [hstep.contents_eq] at hdata
                      have hread : copied.fileAt (resolve (keyOf path')) =
                          some { file with lastWrite := now } := by
                        rw [fileAt_keyOf copied hpath'.ne_nil, hcopied]
                        exact AList.lookup_insert _
                      dsimp only
                      rw [hread]
                      refine ⟨?_, ?_⟩
                      · show StepsTo copied (Function.update (contents fs) (keyOf path')
                          (contents fs (keyOf path)))
                        rw [hdata]
                        refine stepsTo_of_insert hclean { file with lastWrite := now } hpath'
                          ?_ ?_ ?_
                        · intro other hother
                          rw [show other ∈ copied.files ↔ _ by rw [hcopied]] at hother
                          exact (AList.mem_insert _).1 hother
                        · rw [hcopied]
                          exact AList.lookup_insert _
                        · intro other _ hne
                          rw [hcopied, AList.lookup_insert_ne hne]
                      · show contents fs (keyOf path) ≠ none
                        rw [hdata]
                        exact Option.some_ne_none _

theorem delete_stepsTo (hclean : fs.Clean) (key : String)
    (hplain : (BlobCall.delete key).IsPlain) :
    StepsTo (fsDelete key fs).2
      ((contents fs).after (.delete key) (.deleted (fsDelete key fs).1)) := by
  have hsame : StepsTo fs (contents fs) := ⟨hclean, rfl⟩
  unfold fsDelete
  split
  · exact hsame
  · next hsafe =>
      rw [Bool.not_eq_true, Bool.not_eq_false'] at hsafe
      obtain ⟨path, hpath, rfl⟩ := exists_plainPath hsafe (hplain hsafe)
      split
      · exact hsame
      · cases hremove : fs.remove (resolve (keyOf path)) with
        | error what => exact hsame
        | ok removed =>
            have hremoved := remove_files hremove
            rw [resolve_keyOf hpath.ne_nil] at hremoved
            -- a directory has no file under its path, so there too the key has no bytes
            have herase : removed.files.lookup path = none ∧
                ∀ other, other ≠ path → removed.files.lookup other = fs.files.lookup other := by
              rw [hremoved]
              split
              · next hdir =>
                  exact ⟨AList.lookup_eq_none.2 (FileSystem.not_mem_of_isDirectory hdir),
                    fun _ _ => rfl⟩
              · exact ⟨AList.lookup_erase _ _, fun _ hne => AList.lookup_erase_ne hne⟩
            have hparents := removeEmptyParents_files (keyOf path).length
              (parentPath (keyOf path)) removed
            constructor
            · intro other hother
              refine hclean other ?_
              rw [show other ∈ (removeEmptyParents _ _ removed).files ↔ _ by rw [hparents]]
                at hother
              rw [← AList.lookup_isSome] at hother ⊢
              by_cases hne : other = path
              · rw [hne, herase.1] at hother
                cases hother
              · rwa [herase.2 other hne] at hother
            · rw [contents_update fs hpath fun other _ hne => by
                rw [hparents, herase.2 other hne], hparents, herase.1]
              rfl

theorem download_answers (key : String) (options : DownloadOptions)
    (hplain : (BlobCall.download key options).IsPlain) :
    (contents fs).Answers (.download key options) (.bytes (fsDownload key options fs)) := by
  unfold fsDownload
  cases hsafe : isKeySafe key with
  | false =>
      have hnone : contents fs key = none := by simp [contents, hsafe]
      simp [BlobMap.Answers, hnone]
  | true =>
      obtain ⟨path, hpath, rfl⟩ := exists_plainPath hsafe (hplain hsafe)
      have hcontents := contents_keyOf fs hpath
      rw [resolve_keyOf hpath.ne_nil]
      cases hfile : fs.files.lookup path with
      | none =>
          rw [hfile] at hcontents
          have hnone : fs.fileAt ⟨path, .name⟩ = none := hfile
          simp only [BlobMap.Answers, hcontents, hnone, Option.map_none]
          split
          · exact ⟨_, rfl⟩
          · split
            · exact ⟨_, rfl⟩
            · exact ⟨_, rfl⟩
      | some file =>
          rw [hfile] at hcontents
          have hsome : fs.fileAt ⟨path, .name⟩ = some file := hfile
          simp [BlobMap.Answers, hcontents, FileSystem.existsAt, hsome]

/-- Where every file is clean, the listing shows the map. -/
theorem list_answers (hclean : fs.Clean) (options : ListOptions) :
    (contents fs).Answers (.list options) (.listed (fsList options fs)) := by
  have hnotemp : NoTempBlobs fs options.keyPrefix := fun path hpath _ => (hclean path hpath).1
  have hstored : ∀ key, IsStored fs key ↔ contents fs key ≠ none := by
    intro key
    rw [Option.ne_none_iff_exists']
    constructor
    · rintro ⟨path, hpath, rfl⟩
      obtain ⟨file, hfile⟩ := Option.isSome_iff_exists.1 (AList.lookup_isSome.2 hpath)
      obtain ⟨htemp, hsafe⟩ := hclean path hpath
      exact ⟨file.bytes, contents_eq_some.2 ⟨path, file,
        ⟨FileSystem.ne_nil_of_mem hpath, htemp, hsafe⟩, rfl, hfile, rfl⟩⟩
    · rintro ⟨data, hdata⟩
      obtain ⟨path, file, -, rfl, hfile, -⟩ := contents_eq_some.1 hdata
      exact ⟨path, AList.lookup_isSome.1 (by rw [hfile]; rfl), rfl⟩
  have hexact := listsExactly_matchingKeys hnotemp
  exact ⟨matchingKeys options.keyPrefix fs,
    ⟨hexact.sorted, fun key => by rw [hexact.mem_iff, hstored]⟩,
    (fsList_page fs options options.continuationToken).1⟩

/-- **One call**: it answers as the map does, and the files then hold what the map does. -/
theorem perform_follows (hclean : fs.Clean) {call : BlobCall} (hplain : call.IsPlain) :
    (contents fs).Answers call (perform hash fs call).1 ∧
      StepsTo (perform hash fs call).2 ((contents fs).after call (perform hash fs call).1) := by
  cases call with
  | upload key data options now =>
      exact ⟨trivial, upload_stepsTo hclean key data options now hplain⟩
  | copy sourceKey destKey now =>
      exact (copy_stepsTo hclean sourceKey destKey now hplain).symm
  | delete key => exact ⟨trivial, delete_stepsTo hclean key hplain⟩
  | download key options => exact ⟨download_answers key options hplain, hclean, rfl⟩
  | list options => exact ⟨list_answers hclean options, hclean, rfl⟩

end Calls

/-- **Every run follows the map**, from any files that are clean: over plain keys the store is a map
from keys to bytes. -/
theorem follows_of_isPlain (hash : List UInt8 → UInt64) (fs : FileSystem) (hclean : fs.Clean)
    (calls : List BlobCall) (hplain : ∀ call ∈ calls, call.IsPlain) :
    Follows hash fs (contents fs) calls := by
  induction calls generalizing fs with
  | nil => trivial
  | cons call calls ih =>
      obtain ⟨hanswers, hstep⟩ := @perform_follows hash fs hclean call (hplain call (by simp))
      refine ⟨hanswers, ?_⟩
      rw [← hstep.contents_eq]
      exact ih _ hstep.clean fun other hother => hplain other (by simp [hother])

/-- The root directory without anything in it. -/
def emptyRoot : FileSystem where
  files := ∅
  dirs := []
  root_not_file := by simp
  dirs_not_files := by simp

theorem follows_of_isPlain_ab :
    Follows (fun _ => 0) emptyRoot (contents emptyRoot)
      [.upload "a/b" [1] {} 0, .copy "a/b" "c" 1, .delete "a/b", .download "c" {}, .list {}] := by
  have hab : isPlainKey "a/b" = true := by decide +kernel
  have hc : isPlainKey "c" = true := by decide +kernel
  exact follows_of_isPlain _ emptyRoot (fun path h => absurd h (by simp [emptyRoot])) _
    (by simp [BlobCall.IsPlain, hab, hc])

theorem BlobMap.Answers.download_eq {m : BlobMap} {key : String} {options : DownloadOptions}
    {result : Result (List UInt8)} (data : List UInt8)
    (h : m.Answers (.download key options) (.bytes result)) (hdata : m key = some data) :
    result = readRange data options := by
  simpa [BlobMap.Answers, hdata] using h

/-- The upload of `a` takes `a.tmp` for its temporary file, and the blob there is gone. -/
theorem upload_clobbers_temp :
    ¬ Follows (fun _ => 0) emptyRoot (fun _ => none)
      [.upload "a.tmp" [1] {} 0, .upload "a" [2] {} 1, .download "a.tmp" {}] := by
  rintro ⟨-, -, hdownload, -⟩
  have hlost := BlobMap.Answers.download_eq [1] hdownload (by decide +kernel)
  revert hlost
  decide +kernel

end Blob
end Dbal
