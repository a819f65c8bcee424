import PersistLayer.Files.Tree
import PersistLayer.Proofs.Keyed

/-!
# What writing a file changes

A file is written in three stages.  First the directories on the way to it are made, one
after the other; then the file is opened in the last of them, which empties it; then its
content goes to disk.  The first stage never touches a file, whether it gets to its end or not
(`Grows`), so a file that cannot be opened leaves all files as they were.

Once the file is open, its path leads through directories that exist by now, to a place that
holds what the disk took of the content, and no other place holds anything new (`Written`).
That is all of it, unless the disk has a limit below it (`write_cases`).
-/

namespace PersistLayer.Files

/-! ## Paths of files -/

/-- A name under which a file can be written in any directory: a segment of a path that
leads into it, and none of the devices. -/
structure IsFileName (name : String) : Prop where
  noSlash : '/' ∉ name.toList
  step : Step.ofSegment name = .into name
  noDevice : name ≠ "null" ∧ name ≠ "stdin"

/-- The place that a path names, whatever there is on the way. -/
def placeOf (path : String) : Place := (steps path).foldl Place.after (Place.start path)

section Join

variable {name : String} (hname : IsFileName name)

theorem steps_append_slash (front back : String) :
    steps (front ++ "/" ++ back) = steps front ++ steps back := by
  have hsegments : segments (front ++ "/" ++ back) = segments front ++ segments back := by
    have hchars : (front ++ "/" ++ back).toList = front.toList ++ '/' :: back.toList := by simp
    rw [segments, hchars, List.splitOn_eq_splitOnP, List.splitOnP_append_cons _ _ (by simp),
      List.map_append]
    rfl
  rw [steps, hsegments, List.map_append]
  rfl

include hname

theorem IsFileName.steps_eq : steps name = [.into name] := by
  have hsegments : segments name = [name] := by
    rw [segments, List.splitOn_eq_singleton hname.noSlash, List.map_singleton,
      String.ofList_toList]
  rw [steps, hsegments, List.map_singleton, hname.step]

/-- The steps to a file are those to its directory, but for steps that stay, and a last one
into the file. -/
theorem IsFileName.exists_steps_join (directory : String) :
    ∃ front, steps (join directory name) = front ++ [.into name] ∧
      front.filter (· ≠ .stay) = (steps directory).filter (· ≠ .stay) := by
  unfold join
  split_ifs with hdirectory
  · rw [Bool.or_eq_true, beq_iff_eq, beq_iff_eq, List.getLast?_eq_some_iff] at hdirectory
    rcases hdirectory with rfl | ⟨chars, hslash⟩
    · exact ⟨[], by rw [String.empty_append, hname.steps_eq]; rfl, by decide⟩
    · -- the slash at the end adds an empty segment
      have hsplit : directory = String.ofList chars ++ "/" := by
        rw [← String.toList_inj, hslash]
        simp
      have hempty : steps "" = [.stay] := by decide
      have hsteps : steps directory = steps (String.ofList chars) ++ [.stay] := by
        rw [hsplit, ← String.append_empty (s := _ ++ "/"), steps_append_slash, hempty]
      refine ⟨steps (String.ofList chars), ?_, by simp [hsteps]⟩
      rw [hsplit, steps_append_slash, hname.steps_eq]
  · exact ⟨steps directory, by rw [steps_append_slash, hname.steps_eq], rfl⟩

theorem IsFileName.start_join (directory : String) :
    Place.start (join directory name) = Place.start directory := by
  have habsolute : isAbsolute (join directory name) = isAbsolute directory := by
    by_cases hempty : directory = ""
    · have hhead : name.toList.head? ≠ some '/' := fun hhead =>
        hname.noSlash (List.mem_of_mem_head? hhead)
      subst hempty
      simpa [join, isAbsolute] using hhead
    · have hne : directory.toList ≠ [] := by simpa using hempty
      unfold join
      split_ifs <;> simp [isAbsolute, List.head?_append_of_ne_nil _ hne]
  rw [Place.start, habsolute]
  rfl

/-- A file name is not that of a device, so what is read there is the file. -/
theorem IsFileName.content?_child (tree : Tree) (place : Place) :
    tree.content? (place.child name) = tree.file? (place.child name) := by
  have hlast : (place.child name).names.getLast? = some name := List.getLast?_concat
  have hempty : place.child name ≠ Place.emptyDevice := by
    intro hsame
    rw [hsame] at hlast
    exact hname.noDevice.1 (Option.some.inj hlast).symm
  have hinput : place.child name ≠ Place.inputDevice := by
    intro hsame
    rw [hsame] at hlast
    exact hname.noDevice.2 (Option.some.inj hlast).symm
  rw [Tree.content?, if_neg hempty, if_neg hinput]

end Join

/-! ## Directories -/

theorem Place.leadsTo_refl (place : Place) : place.leadsTo place = true := by
  simp [leadsTo]

theorem Place.leadsTo_trans {first second third : Place} (hfirst : first.leadsTo second = true)
    (hsecond : second.leadsTo third = true) : first.leadsTo third = true := by
  simp only [leadsTo, Bool.and_eq_true, beq_iff_eq, List.isPrefixOf_iff_prefix] at *
  exact ⟨hfirst.1.trans hsecond.1, hfirst.2.trans hsecond.2⟩

theorem Place.start_isGiven (path : String) : (Place.start path).isGiven = true := by
  unfold Place.start
  split_ifs <;> rfl

namespace Tree

/-- Every directory of one tree is one of another. -/
def Keeps (before after : Tree) : Prop :=
  ∀ place, before.isDirectory place = true → after.isDirectory place = true

/-- Making directories keeps those there are, and changes no file. -/
structure Grows (before after : Tree) : Prop where
  keeps : before.Keeps after
  files : after.files = before.files

theorem Grows.refl (tree : Tree) : tree.Grows tree := ⟨fun _ h => h, rfl⟩

theorem Grows.trans {first second third : Tree} (hfirst : first.Grows second)
    (hsecond : second.Grows third) : first.Grows third :=
  ⟨fun place h => hsecond.keeps place (hfirst.keeps place h), hsecond.files.trans hfirst.files⟩

theorem isDirectory_addDirectory (tree : Tree) (place : Place) :
    (tree.addDirectory place).isDirectory place = true := by
  simp [isDirectory, addDirectory, Place.leadsTo_refl]

/-- A directory that is left out of the list leads to the one that is put in. -/
theorem grows_addDirectory (tree : Tree) (place : Place) :
    tree.Grows (tree.addDirectory place) := by
  refine ⟨fun other hother => ?_, rfl⟩
  simp only [isDirectory, addDirectory, Bool.or_eq_true, List.any_cons, List.any_eq_true,
    List.mem_filter] at hother ⊢
  rcases hother with (hgiven | ⟨inner, hinner, hleads⟩) | hfile
  · exact .inl (.inl hgiven)
  · by_cases hplace : inner.leadsTo place = true
    · exact .inl (.inr (.inl (Place.leadsTo_trans hleads hplace)))
    · exact .inl (.inr (.inr ⟨inner, ⟨hinner, by simpa using hplace⟩, hleads⟩))
  · exact .inr hfile

/-! ## Following steps -/

section Follow

variable {tree after : Tree} {place target : Place} {way : List Step}

theorem follow?_of_keeps (hkeeps : tree.Keeps after)
    (hfollow : tree.follow? place way = some target) :
    after.follow? place way = some target := by
  induction way generalizing place with
  | nil => exact hfollow
  | cons step rest ih =>
      rw [follow?] at hfollow ⊢
      split_ifs at hfollow with hplace
      rw [if_pos (hkeeps place hplace)]
      exact ih hfollow

theorem foldl_of_follow? (hfollow : tree.follow? place way = some target) :
    way.foldl Place.after place = target := by
  induction way generalizing place with
  | nil => exact Option.some.inj hfollow
  | cons step rest ih =>
      rw [follow?] at hfollow
      split_ifs at hfollow
      exact ih hfollow

theorem follow?_append (tree : Tree) (place : Place) (way rest : List Step) :
    tree.follow? place (way ++ rest) =
      (tree.follow? place way).bind fun target => tree.follow? target rest := by
  induction way generalizing place with
  | nil => rfl
  | cons step others ih =>
      rw [List.cons_append, follow?, follow?]
      split_ifs
      · exact ih _
      · rfl

/-- The way to a directory begins in one. -/
theorem isDirectory_of_follow? (hfollow : tree.follow? place way = some target)
    (htarget : tree.isDirectory target = true) : tree.isDirectory place = true := by
  cases way with
  | nil =>
      obtain rfl := Option.some.inj hfollow
      exact htarget
  | cons step rest =>
      rw [follow?] at hfollow
      split_ifs at hfollow with hplace
      exact hplace

/-- Steps that stay can stand anywhere on the way to a directory. -/
theorem follow?_of_filter (hfollow : tree.follow? place (way.filter (· ≠ .stay)) = some target)
    (htarget : tree.isDirectory target = true) : tree.follow? place way = some target := by
  induction way generalizing place with
  | nil => exact hfollow
  | cons step rest ih =>
      have hplace := isDirectory_of_follow? hfollow htarget
      -- to stay takes a directory to stay in, and the way begins in one
      rw [follow?, if_pos hplace]
      by_cases hstay : step = .stay
      · subst hstay
        exact ih hfollow
      · rw [List.filter_cons_of_pos (by simpa using hstay), follow?, if_pos hplace] at hfollow
        exact ih hfollow

/-- What is read at the place that a path leads to is found. -/
theorem find_of_follow? {path : String} {content : ByteArray} (husable : isUsable path = true)
    (hfollow : tree.follow? (Place.start path) (steps path) = some target)
    (hcontent : tree.content? target = some content) : tree.find path = .file content := by
  simp [find, place?, husable, hfollow, hcontent]

end Follow

/-! ## Making directories -/

section Making

variable {tree : Tree}

theorem grows_makeWay (tree : Tree) (place : Place) (way : List Step) :
    tree.Grows (tree.makeWay place way).1 := by
  induction way generalizing tree place with
  | nil => exact .refl tree
  | cons step rest ih =>
      simp only [makeWay]
      split_ifs
      · exact ih tree _
      · exact (grows_addDirectory tree _).trans (ih _ _)
      · exact .refl tree

/-- The way that was made leads through directories. -/
theorem follow?_makeWay {place target : Place} {way : List Step}
    (hplace : tree.isDirectory place = true) (hmade : (tree.makeWay place way).2 = some target) :
    (tree.makeWay place way).1.follow? place way = some target ∧
      (tree.makeWay place way).1.isDirectory target = true := by
  induction way generalizing tree place with
  | nil =>
      obtain rfl := Option.some.inj hmade
      exact ⟨rfl, hplace⟩
  | cons step rest ih =>
      simp only [makeWay] at hmade ⊢
      split_ifs at hmade ⊢ with hnext hadmits
      · obtain ⟨hfollow, htarget⟩ := ih hnext hmade
        rw [follow?, if_pos ((grows_makeWay tree _ rest).keeps place hplace)]
        exact ⟨hfollow, htarget⟩
      · obtain ⟨hfollow, htarget⟩ := ih (isDirectory_addDirectory tree _) hmade
        have hkept := ((grows_addDirectory tree (place.after step)).trans
          (grows_makeWay _ (place.after step) rest)).keeps place hplace
        rw [follow?, if_pos hkept]
        exact ⟨hfollow, htarget⟩

/-- A directory is made by making the way to it, or, when its path ends in a dot, by making
the way to the directory above and finding it there. -/
theorem makeDirectory_cases (tree : Tree) (path : String) :
    tree.makeDirectory path = (tree, none) ∨
      tree.makeDirectory path =
        tree.makeWay (Place.start path) ((steps path).filter (· ≠ .stay)) ∨
      ∃ front name, (steps path).filter (· ≠ .stay) = front ++ [.into name] ∧
        (tree.makeDirectory path).1 = (tree.makeWay (Place.start path) front).1 ∧
        ∀ target, (tree.makeDirectory path).2 = some target →
          ∃ place, (tree.makeWay (Place.start path) front).2 = some place ∧
            target = place.child name ∧ (tree.makeDirectory path).1.isDirectory target = true := by
  unfold makeDirectory
  dsimp only
  split_ifs
  · exact .inl rfl
  · split
    -- a path that ends in a dot names the directory that the last of its names leads to
    next name _ hlast =>
      obtain ⟨front, hfront⟩ := List.getLast?_eq_some_iff.mp hlast
      refine .inr (.inr ⟨front, name, hfront, ?_⟩)
      rw [hfront, List.dropLast_concat]
      split
      next made place hmade =>
        refine ⟨by rw [hmade], ?_⟩
        simp only [hmade, Option.ite_none_right_eq_some, Option.some.injEq]
        rintro _ ⟨hchild, rfl⟩
        exact ⟨place, rfl, rfl, hchild⟩
      next made hmade =>
        exact ⟨by rw [hmade], by simp⟩
    next => exact .inr (.inl rfl)

theorem grows_makeDirectory (tree : Tree) (path : String) :
    tree.Grows (tree.makeDirectory path).1 := by
  obtain hmade | hmade | ⟨_, _, -, hmade, -⟩ := tree.makeDirectory_cases path
  · rw [hmade]
    exact .refl tree
  · rw [hmade]
    exact grows_makeWay tree _ _
  · rw [hmade]
    exact grows_makeWay tree _ _

/-- A path leads to the directory that was made at it. -/
theorem follow?_makeDirectory {path : String} {target : Place}
    (hmade : (tree.makeDirectory path).2 = some target) :
    (tree.makeDirectory path).1.follow? (Place.start path) ((steps path).filter (· ≠ .stay)) =
        some target ∧
      (tree.makeDirectory path).1.isDirectory target = true := by
  have hstart : tree.isDirectory (Place.start path) = true := by
    simp [isDirectory, Place.start_isGiven]
  obtain hnone | hway | ⟨front, name, hsteps, htree, hresult⟩ := tree.makeDirectory_cases path
  · rw [hnone] at hmade
    cases hmade
  · rw [hway] at hmade ⊢
    exact follow?_makeWay hstart hmade
  · -- behind the way to the directory above, the last name leads into one that is there
    obtain ⟨place, hplace, rfl, hchild⟩ := hresult target hmade
    obtain ⟨hfollow, hdirectory⟩ := follow?_makeWay hstart hplace
    refine ⟨?_, hchild⟩
    calc (tree.makeDirectory path).1.follow? (Place.start path) ((steps path).filter (· ≠ .stay))
        = (tree.makeWay (Place.start path) front).1.follow? place [.into name] := by
          rw [htree, hsteps, follow?_append, hfollow, Option.bind_some]
      _ = some (place.child name) := by
          rw [follow?, if_pos hdirectory]
          rfl

end Making

/-! ## Putting content in its place -/

section Put

variable {place other : Place} {content : ByteArray} {files : List (Place × ByteArray)}

theorem put_eq (place : Place) (content : ByteArray) (files : List (Place × ByteArray)) :
    put place content files = Keyed.put Prod.fst (place, content) files := by
  induction files with
  | nil => rfl
  | cons file rest ih =>
      obtain ⟨known, old⟩ := file
      rw [put, Keyed.put, ih]
      split_ifs with hsame
      · rw [hsame]
      · rfl

theorem lookup_put_self : (put place content files).lookup place = some content := by
  rw [put_eq, Keyed.lookup_put, if_pos rfl]

theorem lookup_put_of_ne (hother : other ≠ place) :
    (put place content files).lookup other = files.lookup other := by
  rw [put_eq, Keyed.lookup_put, if_neg (Ne.symm hother)]

/-- The places of files stay when content is put. -/
theorem map_fst_subset_put : files.map Prod.fst ⊆ (put place content files).map Prod.fst := by
  rw [put_eq]
  exact Keyed.map_subset_map_put

theorem keeps_put (tree : Tree) (place : Place) (content : ByteArray) :
    tree.Keeps { tree with files := put place content tree.files } := by
  intro other hother
  simp only [isDirectory, Bool.or_eq_true, List.any_eq_true] at hother ⊢
  -- a directory can also be there because of a file below it, and no file goes
  refine hother.imp_right ?_
  rintro ⟨⟨known, old⟩, hmem, hbelow⟩
  have hknown : known ∈ (put place content tree.files).map Prod.fst :=
    map_fst_subset_put (List.mem_map_of_mem hmem)
  obtain ⟨entry, hentry, rfl⟩ := List.mem_map.mp hknown
  exact ⟨entry, hentry, hbelow⟩

end Put

/-! ## Writing -/

/-- Where a file was opened for writing: its path leads to what was written, and nothing else
changed. -/
structure Written (before after : Tree) (path : String) (content : ByteArray) : Prop where
  found : after.find path = .file content
  others : ∀ place, place ≠ placeOf path → after.file? place = before.file? place

section Write

variable {tree : Tree} {directory name text : String} {limit : Option Nat}

/-- Putting content at the place that a path leads to writes the file. -/
theorem written_put {place : Place} (hname : IsFileName name)
    (hmade : (tree.makeDirectory directory).2 = some place)
    (husable : isUsable (join directory name) = true) (content : ByteArray) :
    Written tree { (tree.makeDirectory directory).1 with
        files := put (place.child name) content (tree.makeDirectory directory).1.files }
      (join directory name) content := by
  obtain ⟨hway, hplace⟩ := follow?_makeDirectory hmade
  have hkeeps := keeps_put (tree.makeDirectory directory).1 (place.child name) content
  -- the path of the file goes through the directory that was made
  obtain ⟨front, hsteps, hfront⟩ := hname.exists_steps_join directory
  rw [← hfront, ← hname.start_join] at hway
  have hfollow : (tree.makeDirectory directory).1.follow? (Place.start (join directory name))
      (steps (join directory name)) = some (place.child name) := by
    calc (tree.makeDirectory directory).1.follow? (Place.start (join directory name))
          (steps (join directory name))
        = (tree.makeDirectory directory).1.follow? place [.into name] := by
          rw [hsteps, follow?_append, follow?_of_filter hway hplace, Option.bind_some]
      _ = some (place.child name) := by
          rw [follow?, if_pos hplace]
          rfl
  have htarget : placeOf (join directory name) = place.child name := foldl_of_follow? hfollow
  refine ⟨find_of_follow? husable (follow?_of_keeps hkeeps hfollow) ?_, ?_⟩
  · rw [hname.content?_child, file?, lookup_put_self]
  · intro other hother
    rw [htarget] at hother
    rw [file?, file?, lookup_put_of_ne hother, (grows_makeDirectory tree directory).files]

/-- **How the writing of a file ends.**  The file was not opened, and no file has changed; or
all of the text was written; or the disk took less than that, and the file holds the beginning
of the text. -/
theorem write_cases (hname : IsFileName name) :
    ((tree.write directory name text limit).2 = false ∧
      ∀ place, (tree.write directory name text limit).1.file? place = tree.file? place) ∨
    ((tree.write directory name text limit).2 = true ∧
      Written tree (tree.write directory name text limit).1 (join directory name) text.toUTF8) ∨
    ∃ size, limit = some size ∧ size < text.toUTF8.size ∧
      (tree.write directory name text limit).2 = false ∧
      Written tree (tree.write directory name text limit).1 (join directory name)
        (text.toUTF8.extract 0 size) := by
  have hfiles := (grows_makeDirectory tree directory).files
  unfold write
  split
  next made hmade =>
    -- without its directory the file is not opened
    rw [hmade] at hfiles
    exact .inl ⟨rfl, fun place => by rw [file?, file?, hfiles]⟩
  next made place hmade =>
    rw [hmade] at hfiles
    dsimp only
    split_ifs with hwritable
    · have husable := (Bool.and_eq_true_iff.mp hwritable).1
      have hwritten := written_put hname (by rw [hmade]) husable
      rw [hmade] at hwritten
      unfold writeFile
      split
      next => exact .inr (.inl ⟨rfl, hwritten _⟩)
      next size hsize =>
        obtain ⟨hlimit, hshort⟩ := Option.filter_eq_some_iff.mp hsize
        exact .inr (.inr ⟨size, hlimit, by simpa using hshort, rfl, hwritten _⟩)
    · exact .inl ⟨rfl, fun place => by rw [file?, file?, hfiles]⟩

end Write

end Tree

end PersistLayer.Files
