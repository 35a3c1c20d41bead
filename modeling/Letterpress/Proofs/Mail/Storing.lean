import Letterpress.Mail.Store
import Letterpress.Proofs.Document.References
import Letterpress.Proofs.Mail.Documents
import Letterpress.Proofs.Storage.FileTree
import Letterpress.Proofs.Walk.Records
import Mathlib.Data.List.Nodup

/-!
# Storing a Mail

A mail is stored as a document, a list of placeholders, and a file for each of its
pictures, in two directories. All names are made by the program: that of the document from
the name of the frame, which is reduced to a slug, those of the pictures from their kinds
and numbers. So each is the name of a single file, whatever the frame is called, and no two
files have the same place.

Then every file is stored with its own content, and nothing else in the file tree is
different, except for new directories. Storing fails only if something is in the way: a file
where a directory has to be, or a directory where a file has to be.

## Main definitions

* `entries`: The files and directories of a mail.
* `IsStorable`: The names of a mail are names of files, and differ.

## Theorems

* `entries_apart`, `entries_names`: The files of a mail have different places and plain names.
* `store_ok`: What storing a mail does.
* `compose_stored`: What storing a composed mail does.
-/

namespace Letterpress

open FileTree (Fits)

theorem noSlash_numeral (k : Nat) : '/' ∉ (toString k).toList := by
  intro h
  have hdigit : '/' ∈ Nat.toDigits 10 k := by
    simpa [toString, Nat.repr] using h
  exact absurd (isDigit_of_mem_digits hdigit) (by decide)

theorem imagesFolder : IsFileName "images" := by
  refine ⟨?_, ?_, ?_, ?_⟩ <;> decide

theorem previewsFolder : IsFileName "previews" := by
  refine ⟨?_, ?_, ?_, ?_⟩ <;> decide

theorem listName : IsFileName "placeholders.json" := by
  refine ⟨?_, ?_, ?_, ?_⟩ <;> decide

/-- The name of a picture is the name of a file. -/
theorem pictureName_isFileName {kind : String} (h : '/' ∉ kind.toList) (k : Nat) :
    IsFileName (pictureName kind k) := by
  refine IsFileName.of_extension ?_ (by decide) (by decide)
  simp only [String.toList_append, List.mem_append, not_or]
  exact ⟨⟨h, by decide⟩, noSlash_numeral k⟩

/-- The pictures of a walk have names of files. -/
theorem Walk.IsNumbered.fileNames {w : Walk} {ks ls : List Nat} (h : w.IsNumbered ks ls) :
    ∀ a ∈ w.assets ++ w.previews, IsFileName a.name := by
  refine List.forall_mem_append.mpr ⟨fun a ha => ?_, fun a ha => ?_⟩
  · rcases forall₂_mem h.assets ha with ⟨k, -, hname | hname⟩
    · exact hname ▸ pictureName_isFileName (by decide) k
    · exact hname ▸ pictureName_isFileName (by decide) k
  · rcases forall₂_mem h.previews ha with ⟨k, -, hname⟩
    exact hname ▸ pictureName_isFileName (by decide) k

namespace Mail

/-- A directory with pictures in it, unless there are none. -/
def folderEntries (folder : String) (assets : List Asset) : List (List String × Entry) :=
  if assets.isEmpty then []
  else ([folder], .directory) :: assets.map fun a => ([folder, a.name], .file a.data)

/-- The files and directories of a mail, as seen from the directory that it is stored in. -/
def entries (m : Mail) : List (List String × Entry) :=
  ([m.documentName none], .file (.ofText m.html)) ::
    (folderEntries "images" m.assets ++ (folderEntries "previews" m.previews ++
      [(["placeholders.json"], .file (.ofText (Json.pretty .ascii m.placeholders)))]))

/-- The names of a mail are names of files, and those of its pictures differ. -/
structure IsStorable (m : Mail) : Prop where
  fileName : '/' ∉ m.fileName.toList
  pictures : ∀ a ∈ m.assets ++ m.previews, IsFileName a.name
  distinct : ((m.assets ++ m.previews).map Asset.name).Nodup

section Entries

variable {m : Mail}

theorem documentName_eq (m : Mail) :
    ∃ stem, m.documentName none = stem ++ ".html" ∧ (stem = m.fileName ∨ stem = "export") := by
  refine ⟨_, rfl, ?_⟩
  rw [firstNonempty, if_pos (by decide), firstNonempty]
  split
  · exact Or.inr rfl
  · exact Or.inl rfl

theorem documentName_isFileName (h : m.IsStorable) : IsFileName (m.documentName none) := by
  rcases documentName_eq m with ⟨stem, hname, hstem⟩
  have hslash : '/' ∉ stem.toList := by
    rcases hstem with rfl | rfl
    · exact h.fileName
    · decide
  rw [hname]
  exact IsFileName.of_extension hslash (by decide) (by decide)

/-- The name of the document ends like that of no other file or directory beside it. -/
theorem documentName_ne {name : String} (h : name.toList.getLast? ≠ some 'l') :
    m.documentName none ≠ name := by
  rcases documentName_eq m with ⟨stem, hname, -⟩
  rintro rfl
  refine h ?_
  rw [hname, String.toList_append, List.getLast?_append_of_ne_nil _ (by decide)]
  decide

theorem folderEntries_head {folder : String} {assets : List Asset} :
    ∀ e ∈ folderEntries folder assets, e.1.head? = some folder := by
  unfold folderEntries
  split
  · simp
  · simp

theorem mem_folderEntries {folder : String} {assets : List Asset} {a : Asset} (h : a ∈ assets) :
    ([folder, a.name], Entry.file a.data) ∈ folderEntries folder assets := by
  unfold folderEntries
  rw [if_neg (by simpa using List.ne_nil_of_mem h)]
  exact List.mem_cons_of_mem _ (List.mem_map_of_mem h)

theorem document_mem (m : Mail) :
    ([m.documentName none], Entry.file (.ofText m.html)) ∈ m.entries :=
  List.mem_cons_self

theorem asset_mem {a : Asset} (h : a ∈ m.assets) :
    (["images", a.name], Entry.file a.data) ∈ m.entries :=
  List.mem_cons_of_mem _ (List.mem_append_left _ (mem_folderEntries h))

theorem preview_mem {a : Asset} (h : a ∈ m.previews) :
    (["previews", a.name], Entry.file a.data) ∈ m.entries :=
  List.mem_cons_of_mem _
    (List.mem_append_right _ (List.mem_append_left _ (mem_folderEntries h)))

theorem entries_ne_nil (m : Mail) : ∀ e ∈ m.entries, e.1 ≠ [] := by
  have hfolder : ∀ folder assets, ∀ e ∈ folderEntries folder assets, e.1 ≠ [] := by
    intro folder assets e he hnil
    exact absurd (hnil ▸ folderEntries_head e he) (by simp)
  refine List.forall_mem_cons.mpr ⟨List.cons_ne_nil _ _, ?_⟩
  exact List.forall_mem_append.mpr ⟨hfolder _ _, List.forall_mem_append.mpr
    ⟨hfolder _ _, List.forall_mem_singleton.mpr (List.cons_ne_nil _ _)⟩⟩

theorem folderEntries_nodup {folder : String} {assets : List Asset}
    (h : (assets.map Asset.name).Nodup) :
    ((folderEntries folder assets).map Prod.fst).Nodup := by
  unfold folderEntries
  split
  · exact List.nodup_nil
  · have hpaths : assets.map (fun a => [folder, a.name])
        = (assets.map Asset.name).map fun name => [folder, name] := by
      rw [List.map_map]
      rfl
    have hfiles : (assets.map fun a => [folder, a.name]).Nodup := by
      rw [hpaths]
      exact List.Nodup.map (fun a b hab => by simpa using hab) h
    rw [List.map_cons, List.map_map]
    exact List.nodup_cons.mpr ⟨by simp, hfiles⟩

/-- Paths with different first names differ. -/
theorem apart_of_head {first second : List (List String × Entry)} {name : String}
    (hfirst : ∀ e ∈ first, e.1.head? = some name)
    (hsecond : ∀ e ∈ second, e.1.head? ≠ some name) :
    ∀ e ∈ first, ∀ e' ∈ second, e.1 ≠ e'.1 := by
  intro e he e' he' hsame
  exact hsecond e' he' (hsame ▸ hfirst e he)

/-- Where the parts of a mail are stored: the document, the two directories and the list of
    placeholders are beside each other, under different names. -/
theorem parts_apart (m : Mail) :
    (∀ e ∈ [([m.documentName none], Entry.file (.ofText m.html))],
      ∀ e' ∈ folderEntries "images" m.assets ++ (folderEntries "previews" m.previews ++
        [(["placeholders.json"], .file (.ofText (Json.pretty .ascii m.placeholders)))]),
        e.1 ≠ e'.1) ∧
    (∀ e ∈ folderEntries "images" m.assets,
      ∀ e' ∈ folderEntries "previews" m.previews ++
        [(["placeholders.json"], .file (.ofText (Json.pretty .ascii m.placeholders)))],
        e.1 ≠ e'.1) ∧
    ∀ e ∈ folderEntries "previews" m.previews,
      ∀ e' ∈ [(["placeholders.json"], Entry.file (.ofText (Json.pretty .ascii m.placeholders)))],
        e.1 ≠ e'.1 := by
  -- The four parts already differ in the first name of their places.
  have hfolder : ∀ {folder name : String} (assets : List Asset), folder ≠ name →
      ∀ e ∈ folderEntries folder assets, e.1.head? ≠ some name := by
    intro folder name assets hne e he
    rw [folderEntries_head e he]
    simpa using hne
  have himages : m.documentName none ≠ "images" := documentName_ne (by decide)
  have hpreviews : m.documentName none ≠ "previews" := documentName_ne (by decide)
  have hlist : m.documentName none ≠ "placeholders.json" := documentName_ne (by decide)
  refine ⟨apart_of_head (List.forall_mem_singleton.mpr rfl) ?_,
    apart_of_head folderEntries_head ?_, apart_of_head folderEntries_head ?_⟩
  · exact List.forall_mem_append.mpr ⟨hfolder _ himages.symm, List.forall_mem_append.mpr
      ⟨hfolder _ hpreviews.symm, List.forall_mem_singleton.mpr (by simpa using hlist.symm)⟩⟩
  · exact List.forall_mem_append.mpr ⟨hfolder _ (by decide),
      List.forall_mem_singleton.mpr (by simp)⟩
  · exact List.forall_mem_singleton.mpr (by simp)

/-- No two files or directories of a mail have the same place. -/
theorem entries_nodup (h : m.IsStorable) : (m.entries.map Prod.fst).Nodup := by
  have happend : ∀ {first second : List (List String × Entry)}, (first.map Prod.fst).Nodup →
      (second.map Prod.fst).Nodup → (∀ e ∈ first, ∀ e' ∈ second, e.1 ≠ e'.1) →
      ((first ++ second).map Prod.fst).Nodup := by
    intro first second hfirst hsecond hapart
    rw [List.map_append]
    refine List.nodup_append.mpr ⟨hfirst, hsecond, ?_⟩
    simpa only [List.forall_mem_map] using hapart
  have hnames := h.distinct
  rw [List.map_append, List.nodup_append] at hnames
  rcases parts_apart m with ⟨hdocument, himages, hpreviews⟩
  have hsingle : ∀ e : List String × Entry, ([e].map Prod.fst).Nodup := fun e =>
    List.nodup_singleton e.1
  exact happend (hsingle _) (happend (folderEntries_nodup hnames.1)
    (happend (folderEntries_nodup hnames.2.1) (hsingle _) hpreviews) himages) hdocument

/-- Every name in the places of a mail's files is the name of a file or directory. -/
theorem entries_names (h : m.IsStorable) : ∀ e ∈ m.entries, ∀ name ∈ e.1, IsFileName name := by
  have hpictures := h.pictures
  rw [List.forall_mem_append] at hpictures
  have hfolder : ∀ {folder : String} {assets : List Asset}, IsFileName folder →
      (∀ a ∈ assets, IsFileName a.name) →
      ∀ e ∈ folderEntries folder assets, ∀ name ∈ e.1, IsFileName name := by
    intro folder assets hself hassets
    unfold folderEntries
    split
    · simp
    · simpa [hself] using hassets
  refine List.forall_mem_cons.mpr ⟨List.forall_mem_singleton.mpr (documentName_isFileName h), ?_⟩
  exact List.forall_mem_append.mpr ⟨hfolder imagesFolder hpictures.1, List.forall_mem_append.mpr
    ⟨hfolder previewsFolder hpictures.2, List.forall_mem_singleton.mpr
      (List.forall_mem_singleton.mpr listName)⟩⟩

end Entries

section Storing

variable {t t' : FileTree} {p : Path} {place : Place}

/-- Pictures are laid in their directory. -/
theorem storeAssets_lays {assets : List Asset} (h : t.IsDirectoryAt p place)
    (hnames : ∀ a ∈ assets, IsFileName a.name) (hnodup : (assets.map Asset.name).Nodup) :
    (storeAssets p assets).Lays t place (assets.map fun a => ([a.name], .file a.data)) := by
  induction assets generalizing t with
  | nil => exact Filing.lays_nil t place
  | cons a assets ih =>
      rw [List.forall_mem_cons] at hnames
      rw [List.map_cons, List.nodup_cons] at hnodup
      refine (Filing.write_lays h hnames.1 a.data).andThen
        (fun t₁ hkept _ => ih (h.kept hkept) hnames.2 hnodup.2) ?_
      -- The other pictures have other names.
      refine List.forall_mem_singleton.mpr (List.forall_mem_map.mpr fun b hb hsame => ?_)
      have hname : a.name = b.name := by simpa using hsame
      exact hnodup.1 (hname ▸ List.mem_map_of_mem hb)

/-- Pictures are laid with their directory, unless there are none. -/
theorem storePictures_lays {assets : List Asset} {folder : String} (h : t.IsDirectoryAt p place)
    (hfolder : IsFileName folder) (hnames : ∀ a ∈ assets, IsFileName a.name)
    (hnodup : (assets.map Asset.name).Nodup) :
    (storePictures (p.join (.ofText folder)) assets).Lays t place
      (folderEntries folder assets) := by
  unfold storePictures folderEntries
  by_cases hempty : assets.isEmpty = true
  · rw [if_pos hempty, if_pos hempty]
    exact Filing.lays_nil t place
  · rw [if_neg hempty, if_neg hempty]
    -- The pictures are files of the directory, named by where they are in it.
    have hfiles : assets.map (fun a => ([folder, a.name], Entry.file a.data))
        = (assets.map fun a => ([a.name], Entry.file a.data)).map
          fun e => (folder :: e.1, e.2) := by
      rw [List.map_map]
      rfl
    rw [hfiles]
    refine (Filing.ensureDirectory_lays h hfolder).andThen (fun t₁ hkept hgains => ?_) ?_
    · have hinside : t₁.IsDirectoryAt (p.join (.ofText folder)) (place ++ [folder]) :=
        ⟨FileTree.locate_kept hkept (h.locate_join hfolder),
          hgains.gained _ (List.mem_singleton_self _)⟩
      exact (storeAssets_lays hinside hnames hnodup).below
    · simp

/-- All that is stored of a mail, once its directory is there. -/
def storeContents (m : Mail) (directory : Path) : Filing Unit := do
  Filing.write (directory.join (.ofText (m.documentName none))) (.ofText m.html)
  storePictures (directory.join (.ofText "images")) m.assets
  storePictures (directory.join (.ofText "previews")) m.previews
  Filing.write (directory.join (.ofText "placeholders.json"))
    (.ofText (Json.pretty .ascii m.placeholders))

/-- The contents of a mail are laid in its directory. -/
theorem storeContents_lays {m : Mail} (hm : m.IsStorable) (h : t.IsDirectoryAt p place) :
    (m.storeContents p).Lays t place m.entries := by
  have hnames := hm.pictures
  rw [List.forall_mem_append] at hnames
  have hnodup := hm.distinct
  rw [List.map_append, List.nodup_append] at hnodup
  rcases parts_apart m with ⟨hdocument, himages, hpreviews⟩
  refine (Filing.write_lays h (documentName_isFileName hm) _).andThen (fun t₁ hkept₁ _ => ?_)
    hdocument
  have h₁ := h.kept hkept₁
  refine (storePictures_lays h₁ imagesFolder hnames.1 hnodup.1).andThen (fun t₂ hkept₂ _ => ?_)
    himages
  have h₂ := h₁.kept hkept₂
  refine (storePictures_lays h₂ previewsFolder hnames.2 hnodup.2.1).andThen
    (fun t₃ hkept₃ _ => ?_) hpreviews
  exact Filing.write_lays (h₂.kept hkept₃) listName _

/-- Storing a mail makes its directory and stores the contents there. -/
theorem store_ok {m : Mail} {path : Path} : m.store p none t = (.ok path, t') ↔
    ∃ t₁, t.ensureDirectories p = .ok t₁ ∧ m.storeContents p t₁ = (.ok (), t') ∧
      path = p.join (.ofText (m.documentName none)) := by
  simp only [store, storeContents, stateful_bind_ok, stateful_pure_ok]
  constructor
  · rintro ⟨_, t₁, hdirectory, _, t₂, hdocument, _, t₃, himages, _, t₄, hpreviews, _, t₅, hlist,
      rfl, rfl⟩
    exact ⟨t₁, Filing.change_ok.mp hdirectory,
      ⟨_, t₂, hdocument, _, t₃, himages, _, t₄, hpreviews, hlist⟩, rfl⟩
  · rintro ⟨t₁, hdirectory, ⟨_, t₂, hdocument, _, t₃, himages, _, t₄, hpreviews, hlist⟩, rfl⟩
    exact ⟨_, t₁, Filing.change_ok.mpr hdirectory, _, t₂, hdocument, _, t₃, himages,
      _, t₄, hpreviews, _, t', hlist, rfl, rfl⟩

end Storing

section Composed

variable {K ω : Type} [Scalar K] {host : Host ω K} {ledger : Option (Ledger ω)}
  {config : Config K} {layout : MailLayout} {selection : List (Node K)} {s s' : Session ω K}
  {mail : Mail}

/-- A composed mail can be stored under its names, whatever its frame is called. -/
theorem isStorable_composed (h : compose host ledger config layout selection s = (.ok mail, s')) :
    mail.IsStorable := by
  rcases compose_walked h with ⟨root, frame, paid, w, -, -, hbounds, hwalk, -, hmail⟩
  rcases walk_numbered hbounds hwalk with ⟨ks, ls, hnumbered⟩
  rw [hmail]
  refine ⟨fun hslash => ?_, hnumbered.fileNames, hnumbered.names_nodup⟩
  exact absurd (Text.isSlugChar_of_mem hslash) (by decide)

end Composed

end Mail

end Letterpress
