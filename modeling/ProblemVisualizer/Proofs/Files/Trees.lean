import ProblemVisualizer.Files.Tree

/-! What operations on a tree leave as it was.

A path is resolved through directories, and no operation here takes a directory
away. So as long as there is still a file where a path leads, the path goes on
leading there, whatever is made, written or removed beside it: `Keeps.fileAt`. -/
namespace ProblemVisualizer.Files.Tree

variable {t t' : Tree} {p : Path} {path : String} {loc other : Location} {content : Text.Bytes}

/-! ### Entries -/

theorem lookup_cons (m : Location × Entry) (rest : List (Location × Entry)) (loc : Location) :
    (m :: rest).lookup loc = if loc = m.1 then some m.2 else rest.lookup loc := by
  rw [List.lookup_cons]
  by_cases h : loc = m.1
  · rw [if_pos h, h, beq_self_eq_true]
  · rw [if_neg h, beq_false_of_ne h]

theorem lookup_replace (entries : List (Location × Entry)) (loc other : Location) (e : Entry) :
    (entries.map fun m => (m.1, if m.1 = loc then e else m.2)).lookup other
      = (entries.lookup other).map fun old => if other = loc then e else old := by
  induction entries with
  | nil => rfl
  | cons m rest ih =>
    rw [List.map_cons, lookup_cons, lookup_cons, ih]
    by_cases h : other = m.1
    · rw [if_pos h, if_pos h, h, Option.map_some]
    · rw [if_neg h, if_neg h]

theorem lookup_filter_ne (entries : List (Location × Entry)) (loc other : Location) :
    (entries.filter fun m => m.1 ≠ loc).lookup other
      = if other = loc then none else entries.lookup other := by
  induction entries with
  | nil => simp
  | cons m rest ih =>
    rw [List.filter_cons, lookup_cons]
    by_cases dropped : m.1 = loc
    · rw [if_neg (by simpa using dropped), ih]
      by_cases h : other = loc
      · rw [if_pos h, if_pos h]
      · rw [if_neg h, if_neg h, if_neg (dropped ▸ h)]
    · rw [if_pos (by simpa using dropped), lookup_cons, ih]
      by_cases h : other = m.1
      · rw [if_pos h, if_pos h, if_neg (h ▸ dropped)]
      · rw [if_neg h, if_neg h]

theorem ne_of_lookup_eq_none {entries : List (Location × Entry)} {loc : Location}
    (free : entries.lookup loc = none) {m : Location × Entry} (hm : m ∈ entries) : m.1 ≠ loc := by
  have := List.lookup_eq_none_iff.mp free m hm
  exact fun h => by simp [h] at this

theorem entry?_of_ne_nil (t : Tree) (named : loc ≠ []) : t.entry? loc = t.entries.lookup loc :=
  if_neg named

theorem isDirectoryAt_iff : t.isDirectoryAt loc = true ↔ t.entry? loc = some .directory := by
  simp [isDirectoryAt]

theorem ne_nil_of_not_isDirectoryAt (h : t.isDirectoryAt loc = false) : loc ≠ [] := by
  rintro rfl
  cases h

theorem isDirectoryAt_of_entry?_eq_none (free : t.entry? loc = none) :
    t.isDirectoryAt loc = false := by
  simp [isDirectoryAt, free]

theorem ne_nil_of_entry?_eq_none (free : t.entry? loc = none) : loc ≠ [] :=
  ne_nil_of_not_isDirectoryAt (isDirectoryAt_of_entry?_eq_none free)

theorem put_of_free (free : t.entry? loc = none) (e : Entry) :
    t.put loc e = {t with entries := t.entries ++ [(loc, e)]} := by
  rw [entry?_of_ne_nil t (ne_nil_of_entry?_eq_none free)] at free
  simp [put, free]

theorem entry?_put (t : Tree) (named : loc ≠ []) (e : Entry) (other : Location) :
    Tree.entry? (t.put loc e) other = if other = loc then some e else t.entry? other := by
  by_cases root : other = []
  · rw [root, if_neg named.symm]
    rfl
  rw [entry?_of_ne_nil _ root, entry?_of_ne_nil _ root]
  unfold put
  split
  · rename_i there
    rw [lookup_replace]
    by_cases h : other = loc
    · obtain ⟨old, there⟩ := Option.isSome_iff_exists.mp there
      simp [h, there]
    · simp [h]
  · rename_i free
    rw [List.lookup_append, List.lookup_cons, List.lookup_nil]
    by_cases h : other = loc
    · simp [h, Option.not_isSome_iff_eq_none.mp free]
    · simp [h, beq_false_of_ne h]

theorem entry?_put_self (t : Tree) (named : loc ≠ []) (e : Entry) :
    Tree.entry? (t.put loc e) loc = some e := by
  rw [entry?_put t named, if_pos rfl]

theorem entry?_put_of_ne (t : Tree) (named : loc ≠ []) (e : Entry) (apart : other ≠ loc) :
    Tree.entry? (t.put loc e) other = t.entry? other := by
  rw [entry?_put t named, if_neg apart]

theorem entry?_remove_of_ne (t : Tree) (apart : other ≠ loc) :
    Tree.entry? (t.remove loc) other = t.entry? other := by
  by_cases root : other = []
  · rw [root]
    rfl
  rw [entry?_of_ne_nil _ root, entry?_of_ne_nil _ root]
  exact (lookup_filter_ne t.entries loc other).trans (if_neg apart)

theorem put_put (t : Tree) (loc : Location) (a b : Entry) :
    (t.put loc a).put loc b = t.put loc b := by
  by_cases there : (t.entries.lookup loc).isSome = true
  · have still : ((t.put loc a).entries.lookup loc).isSome = true := by
      simp [put, there, lookup_replace]
    rw [put, if_pos still]
    simp only [put, if_pos there, List.map_map]
    congr 2
    funext m
    by_cases h : m.1 = loc <;> simp [h]
  · have others : t.entries.map (fun m => (m.1, if m.1 = loc then b else m.2)) = t.entries := by
      refine (List.map_congr_left fun m hm => ?_).trans (List.map_id _)
      rw [if_neg (ne_of_lookup_eq_none (Option.not_isSome_iff_eq_none.mp there) hm)]
      rfl
    have now : ((t.entries ++ [(loc, a)]).lookup loc).isSome = true := by
      simp [List.lookup_append]
    rw [put, put, if_neg there, if_pos now, List.map_append, others]
    simp [put, there]

theorem remove_put (free : t.entry? loc = none) (e : Entry) : (t.put loc e).remove loc = t := by
  have others : t.entries.filter (fun m => m.1 ≠ loc) = t.entries := by
    rw [entry?_of_ne_nil t (ne_nil_of_entry?_eq_none free)] at free
    exact List.filter_eq_self.mpr fun m hm => decide_eq_true (ne_of_lookup_eq_none free hm)
  rw [put_of_free free, remove]
  simp only [List.filter_append]
  rw [others]
  simp

/-- A file that is put and taken away again leaves no trace in what is put besides. -/
theorem remove_put_put {found : Location} (free : t.entry? loc = none) (apart : found ≠ loc)
    (e e' : Entry) : ((t.put loc e).put found e').remove loc = t.put found e' := by
  have others : ∀ m ∈ t.entries, m.1 ≠ loc := by
    rw [entry?_of_ne_nil t (ne_nil_of_entry?_eq_none free)] at free
    exact fun m hm => ne_of_lookup_eq_none free hm
  have still : (t.entries ++ [(loc, e)]).lookup found = t.entries.lookup found := by
    simp [List.lookup_append, List.lookup_cons, beq_false_of_ne apart]
  rw [put_of_free free, put, put, still, remove]
  split
  · have kept : ∀ m ∈ t.entries.map (fun m => (m.1, if m.1 = found then e' else m.2)), m.1 ≠ loc := by
      intro m hm
      obtain ⟨old, ho, rfl⟩ := List.mem_map.mp hm
      exact others old ho
    simp only [List.map_append, List.filter_append]
    rw [List.filter_eq_self.mpr fun m hm => decide_eq_true (kept m hm)]
    simp
  · simp only [List.filter_append]
    rw [List.filter_eq_self.mpr fun m hm => decide_eq_true (others m hm)]
    simp [apart]

/-! ### Resolving -/

/-- The second tree has every directory that the first one has. -/
structure Keeps (t t' : Tree) : Prop where
  workingDirectory : t'.workingDirectory = t.workingDirectory
  directories : ∀ loc, t.isDirectoryAt loc = true → t'.isDirectoryAt loc = true

theorem Keeps.refl (t : Tree) : Keeps t t := ⟨rfl, fun _ h => h⟩

theorem Keeps.trans {u : Tree} (k : Keeps t t') (k' : Keeps t' u) : Keeps t u :=
  ⟨k'.workingDirectory.trans k.workingDirectory,
    fun loc h => k'.directories loc (k.directories loc h)⟩

theorem workingDirectory_put (t : Tree) (loc : Location) (e : Entry) :
    (t.put loc e).workingDirectory = t.workingDirectory := by
  unfold put
  split <;> rfl

/-- Nothing is lost when only a place changes where no directory was. -/
theorem keeps_of_elsewhere (taken : t.isDirectoryAt loc = false)
    (workingDirectory : t'.workingDirectory = t.workingDirectory)
    (elsewhere : ∀ other ≠ loc, t'.entry? other = t.entry? other) : Keeps t t' := by
  refine ⟨workingDirectory, fun other directory => ?_⟩
  have apart : other ≠ loc := by
    rintro rfl
    rw [taken] at directory
    cases directory
  rwa [isDirectoryAt, elsewhere other apart]

theorem keeps_put (h : t.isDirectoryAt loc = false) (e : Entry) : Keeps t (t.put loc e) :=
  keeps_of_elsewhere h (workingDirectory_put t loc e) fun _ apart =>
    entry?_put_of_ne t (ne_nil_of_not_isDirectoryAt h) e apart

theorem keeps_remove (h : t.isDirectoryAt loc = false) : Keeps t (t.remove loc) :=
  keeps_of_elsewhere h rfl fun _ apart => entry?_remove_of_ne t apart

theorem isSome_entry?_of_isDirectoryAt (h : t.isDirectoryAt loc = true) :
    (t.entry? loc).isSome = true := by
  rw [isDirectoryAt_iff.mp h]
  rfl

/-- How a walk that succeeds goes: name by name, each time from a directory. -/
inductive Walks (t : Tree) : Location → List String → Location → Prop where
  | done {here : Location} : Walks t here [] here
  | stay {here found : Location} {names : List String} (directory : t.isDirectoryAt here = true)
    (rest : Walks t here names found) : Walks t here ("." :: names) found
  | up {here found : Location} {names : List String} (directory : t.isDirectoryAt here = true)
    (rest : Walks t here.dropLast names found) : Walks t here (".." :: names) found
  | down {here found : Location} {name : String} {names : List String}
    (directory : t.isDirectoryAt here = true) (named : name ≠ "." ∧ name ≠ "..")
    (short : Text.byteLength name.toList ≤ Path.maxNameBytes)
    (there : (t.entry? (here ++ [name])).isSome = true)
    (rest : Walks t (here ++ [name]) names found) : Walks t here (name :: names) found

theorem walks_of_walk {here found : Location} {names : List String}
    (h : t.walk here names = .ok found) : t.Walks here names found := by
  induction names generalizing here with
  | nil =>
    obtain rfl := Except.ok.inj h
    exact .done
  | cons name rest ih =>
    unfold walk at h
    split at h
    · cases h
    rename_i directory
    simp only [Bool.not_eq_true', Bool.not_eq_false] at directory
    split at h
    · rename_i same
      exact same ▸ .stay directory (ih h)
    rename_i same
    split at h
    · rename_i up
      exact up ▸ .up directory (ih h)
    rename_i up
    split at h
    · cases h
    rename_i long
    split at h
    · rename_i there
      exact .down directory ⟨same, up⟩ (Nat.le_of_not_gt long) there (ih h)
    · cases h

theorem Walks.walk_eq {here found : Location} {names : List String} (w : t.Walks here names found) :
    t.walk here names = .ok found := by
  induction w with
  | done => rfl
  | stay directory _ ih => simp [walk, directory, ih]
  | up directory _ ih => simp [walk, directory, ih]
  | down directory named short there _ ih =>
    simp [walk, directory, named.1, named.2, Nat.not_lt.mpr short, there, ih]

/-- A walk that goes on starts in a directory. -/
theorem Walks.directory {here found : Location} {name : String} {names : List String}
    (w : t.Walks here (name :: names) found) : t.isDirectoryAt here = true := by
  cases w <;> assumption

theorem Walks.append {here mid found : Location} {names more : List String}
    (w : t.Walks here names mid) (w' : t.Walks mid more found) : t.Walks here (names ++ more) found := by
  induction w with
  | done => exact w'
  | stay directory _ ih => exact .stay directory (ih w')
  | up directory _ ih => exact .up directory (ih w')
  | down directory named short there _ ih => exact .down directory named short there (ih w')

/-- A walk ends in the same place as long as there is something. -/
theorem Keeps.walks (k : Keeps t t') {here found : Location} {names : List String}
    (w : t.Walks here names found) (still : (t'.entry? found).isSome = true) :
    t'.Walks here names found := by
  induction w with
  | done => exact .done
  | stay directory _ ih => exact .stay (k.directories _ directory) (ih still)
  | up directory _ ih => exact .up (k.directories _ directory) (ih still)
  | @down here found name names directory named short _ rest ih =>
    refine .down (k.directories _ directory) named short ?_ (ih still)
    cases names with
    | nil =>
      cases rest
      exact still
    | cons => exact isSome_entry?_of_isDirectoryAt (k.directories _ rest.directory)

theorem Keeps.start (k : Keeps t t') (p : Path) : t'.start p = t.start p := by
  unfold Tree.start
  rw [k.workingDirectory]

theorem Keeps.resolve (k : Keeps t t') (h : t.resolve p = .ok loc)
    (still : (t'.entry? loc).isSome = true) : t'.resolve p = .ok loc := by
  unfold Tree.resolve at h ⊢
  split at h
  · cases h
  rename_i found walked
  split at h
  · cases h
  rename_i fits
  obtain rfl := Except.ok.inj h
  rw [k.start, (k.walks (walks_of_walk walked) still).walk_eq]
  refine if_neg fun unfit => fits ⟨unfit.1, ?_⟩
  have gone := unfit.2
  revert gone
  cases directory : t.isDirectoryAt found with
  | true => simp [k.directories found directory]
  | false => simp

/-! ### Files -/

theorem fileAt_eq_ok_iff : t.fileAt path = .ok (loc, content) ↔
    ∃ p, Path.parse path = .ok p ∧ t.resolve p = .ok loc ∧
      t.entry? loc = some (.file content) := by
  constructor
  · intro h
    unfold fileAt at h
    split at h
    · cases h
    rename_i p parsed
    split at h
    · cases h
    rename_i found resolved
    split at h
    · rename_i held
      obtain ⟨rfl, rfl⟩ := Prod.mk.inj (Except.ok.inj h)
      exact ⟨p, parsed, resolved, held⟩
    · cases h
    · cases h
  · rintro ⟨p, parsed, resolved, held⟩
    simp [fileAt, parsed, resolved, held]

/-- A path that leads to a file leads there as long as there is a file. -/
theorem Keeps.fileAt (k : Keeps t t') {now : Text.Bytes} (h : t.fileAt path = .ok (loc, content))
    (still : t'.entry? loc = some (.file now)) : t'.fileAt path = .ok (loc, now) := by
  obtain ⟨p, parsed, resolved, -⟩ := fileAt_eq_ok_iff.mp h
  exact fileAt_eq_ok_iff.mpr
    ⟨p, parsed, k.resolve resolved (Option.isSome_of_eq_some still), still⟩

theorem fileAt_remove (held : t.fileAt path = .ok (loc, content))
    (taken : t.isDirectoryAt other = false) (apart : loc ≠ other) :
    Tree.fileAt (t.remove other) path = .ok (loc, content) := by
  obtain ⟨-, -, -, there⟩ := fileAt_eq_ok_iff.mp held
  refine (keeps_remove taken).fileAt held ?_
  rw [entry?_remove_of_ne t apart, there]

theorem readBytes_of_fileAt (h : t.fileAt path = .ok (loc, content)) :
    t.readBytes path = .ok content := by
  rw [readBytes, h]
  rfl

/-- A file is read as a text if its bytes are that text in UTF-8. -/
theorem readText_eq_ok_iff {text : String} :
    t.readText path = .ok text ↔ t.readBytes path = .ok (Text.encode text) := by
  unfold readText
  cases t.readBytes path with
  | error failure => exact ⟨nofun, nofun⟩
  | ok bytes =>
    rw [Except.ok.injEq, ← Text.decode?_eq_some_iff]
    dsimp only
    split
    · rename_i s decoded
      rw [decoded, Except.ok.injEq, Option.some.injEq]
    · rename_i undecoded
      rw [undecoded]
      exact ⟨nofun, nofun⟩

/-- The path leads to this place in a directory, whether or not there is something. -/
inductive LeadsTo (t : Tree) (p : Path) : Location → Prop where
  | mk {parent : Location} {last : String} (names : p.names.getLast? = some last)
    (resolved : t.resolveParent p = .ok parent) (named : last ≠ "." ∧ last ≠ "..")
    (short : Text.byteLength last.toList ≤ Path.maxNameBytes) : LeadsTo t p (parent ++ [last])

theorem LeadsTo.ne_nil (l : t.LeadsTo p loc) : loc ≠ [] := by
  cases l
  exact List.append_ne_nil_of_right_ne_nil _ (List.cons_ne_nil _ _)

theorem LeadsTo.getLast?_eq (l : t.LeadsTo p loc) : loc.getLast? = p.names.getLast? := by
  cases l with
  | mk names => rw [List.getLast?_concat, names]

theorem resolveParent_eq_ok {parent : Location} (h : t.resolveParent p = .ok parent) :
    t.Walks (t.start p) p.names.dropLast parent ∧ t.isDirectoryAt parent = true := by
  unfold resolveParent at h
  split at h
  · cases h
  rename_i found walked
  split at h
  · rename_i directory
    obtain rfl := Except.ok.inj h
    exact ⟨walks_of_walk walked, directory⟩
  · cases h

/-- Once something is there, the path resolves to it. -/
theorem LeadsTo.resolve (l : t.LeadsTo p loc) (unslashed : p.slashed = false) (k : Keeps t t')
    (there : (t'.entry? loc).isSome = true) : t'.resolve p = .ok loc := by
  obtain @⟨parent, last, names, resolved, named, short⟩ := l
  obtain ⟨walks, directory⟩ := resolveParent_eq_ok resolved
  have still := k.directories parent directory
  have before := k.walks walks (isSome_entry?_of_isDirectoryAt still)
  have whole := before.append (.down still named short there .done)
  obtain ⟨front, split⟩ := List.getLast?_eq_some_iff.mp names
  rw [split, List.dropLast_concat, ← split, ← k.start] at whole
  simp [Tree.resolve, whole.walk_eq, unslashed]

theorem leadsTo_of_locateForWriting (h : t.locateForWriting path = .ok loc) :
    ∃ p, Path.parse path = .ok p ∧ p.slashed = false ∧ t.LeadsTo p loc ∧
      t.isDirectoryAt loc = false := by
  unfold locateForWriting at h
  split at h
  · cases h
  rename_i p parsed
  split at h
  · cases h
  rename_i last names
  split at h
  · cases h
  rename_i parent resolved
  split at h
  · cases h
  rename_i plain
  split at h
  · cases h
  rename_i long
  split at h
  · cases h
  rename_i taken
  obtain rfl := Except.ok.inj h
  simp only [not_or, Bool.not_eq_true] at plain taken
  exact ⟨p, parsed, plain.2.2, .mk names resolved ⟨plain.1, plain.2.1⟩ (Nat.le_of_not_gt long), taken⟩

theorem leadsTo_of_locateNew (h : t.locateNew p = .ok loc) :
    t.LeadsTo p loc ∧ t.entry? loc = none := by
  unfold locateNew at h
  split at h
  · cases h
  rename_i last names
  split at h
  · cases h
  rename_i parent resolved
  split at h
  · cases h
  rename_i plain
  split at h
  · cases h
  rename_i long
  split at h
  · cases h
  rename_i free
  obtain rfl := Except.ok.inj h
  exact ⟨.mk names resolved (not_or.mp plain) (Nat.le_of_not_gt long),
    Option.not_isSome_iff_eq_none.mp free⟩

theorem write_eq_ok (h : t.write path content = .ok t') :
    ∃ loc, t.locateForWriting path = .ok loc ∧ t' = t.put loc (.file content) := by
  unfold write at h
  cases located : t.locateForWriting path with
  | error e => simp [located, Except.map] at h
  | ok loc =>
    rw [located] at h
    exact ⟨loc, rfl, (Except.ok.inj h).symm⟩

/-- What is written can be read back. -/
theorem fileAt_write (h : t.locateForWriting path = .ok loc) (content : Text.Bytes) :
    (t.put loc (.file content)).fileAt path = .ok (loc, content) := by
  obtain ⟨p, parsed, unslashed, leads, taken⟩ := leadsTo_of_locateForWriting h
  have there := entry?_put_self t leads.ne_nil (.file content)
  exact fileAt_eq_ok_iff.mpr ⟨p, parsed,
    leads.resolve unslashed (keeps_put taken _) (Option.isSome_of_eq_some there), there⟩

theorem createFile_eq_ok (h : t.createFile path content = .ok t') :
    ∃ p loc, Path.parse path = .ok p ∧ t.LeadsTo p loc ∧ t.entry? loc = none ∧
      t' = t.put loc (.file content) ∧ t'.fileAt path = .ok (loc, content) := by
  unfold createFile at h
  split at h
  · cases h
  rename_i p parsed
  split at h
  · cases h
  rename_i unslashed
  cases located : t.locateNew p with
  | error e => simp [located, Except.map] at h
  | ok loc =>
    obtain ⟨leads, free⟩ := leadsTo_of_locateNew located
    obtain rfl : t.put loc (.file content) = t' := by simpa [located, Except.map] using h
    have there := entry?_put_self t leads.ne_nil (.file content)
    refine ⟨p, loc, parsed, leads, free, rfl, fileAt_eq_ok_iff.mpr ⟨p, parsed, ?_, there⟩⟩
    exact leads.resolve (Bool.eq_false_iff.mpr unslashed)
      (keeps_put (isDirectoryAt_of_entry?_eq_none free) _) (Option.isSome_of_eq_some there)

/-- A copy of another file is as good as writing what that file holds. -/
theorem copy_eq_write {source : String} {origin : Location}
    (held : t.fileAt source = .ok (origin, content))
    (apart : ∀ found, t.locateForWriting path = .ok found → origin ≠ found) :
    t.copy source path = t.write path content := by
  obtain ⟨-, -, -, there⟩ := fileAt_eq_ok_iff.mp held
  unfold copy write
  rw [held]
  cases located : t.locateForWriting path with
  | error e => rfl
  | ok found =>
    obtain ⟨_, -, -, leads, -⟩ := leadsTo_of_locateForWriting located
    have still : Tree.entry? (t.put found (.file [])) origin = some (.file content) := by
      rw [entry?_put_of_ne t leads.ne_nil _ (apart found located), there]
    simp only [still, Except.map, put_put]

/-- What a file that is put aside and taken away again leaves of a file written meanwhile. -/
structure Aside (t : Tree) (loc : Location) (source : String) (aside : Text.Bytes) (found : Location)
    (target : String) (content : Text.Bytes) : Prop where
  taken : t.isDirectoryAt found = false
  /-- The file put aside is there until it is taken away. -/
  held : ((t.put loc (.file aside)).put found (.file content)).fileAt source = .ok (loc, aside)
  gone : ((t.put loc (.file aside)).put found (.file content)).remove loc = t.put found (.file content)
  read : (t.put found (.file content)).fileAt target = .ok (found, content)

theorem aside_of_located {source : String} {aside : Text.Bytes} {found : Location} {target : String}
    (free : t.entry? loc = none) (held : (t.put loc (.file aside)).fileAt source = .ok (loc, aside))
    (located : (t.put loc (.file aside)).locateForWriting target = .ok found) (apart : found ≠ loc)
    (content : Text.Bytes) : t.Aside loc source aside found target content := by
  obtain ⟨_, -, -, leads, taken⟩ := leadsTo_of_locateForWriting located
  have there : Tree.entry? ((t.put loc (.file aside)).put found (.file content)) loc
      = some (.file aside) := by
    rw [entry?_put_of_ne _ leads.ne_nil _ apart.symm]
    exact entry?_put_self t (ne_nil_of_entry?_eq_none free) _
  have gone := remove_put_put free apart (.file aside) (.file content)
  have file : Tree.isDirectoryAt ((t.put loc (.file aside)).put found (.file content)) loc = false := by
    simp [isDirectoryAt, there]
  have read := fileAt_remove (fileAt_write located content) file apart
  rw [gone] at read
  refine ⟨?_, (keeps_put taken _).fileAt held there, gone, read⟩
  rw [isDirectoryAt, ← entry?_put_of_ne t (ne_nil_of_entry?_eq_none free) (.file aside) apart]
  exact taken

/-! ### Making directories -/

/-- The second tree has some directories more than the first one, in places that were free. -/
inductive Grows (t : Tree) : Tree → Prop where
  | same : Grows t t
  | directory {u : Tree} {loc : Location} (g : Grows t u) (free : u.entry? loc = none) :
    Grows t (u.put loc .directory)

theorem Grows.trans {u : Tree} (g : Grows t u) (g' : Grows u t') : Grows t t' := by
  induction g' with
  | same => exact g
  | directory _ free ih => exact .directory ih free

theorem Grows.keeps (g : Grows t t') : Keeps t t' := by
  induction g with
  | same => exact .refl t
  | directory _ free ih => exact ih.trans (keeps_put (isDirectoryAt_of_entry?_eq_none free) _)

theorem Grows.entry? (g : Grows t t') {e : Entry} (h : t.entry? loc = some e) :
    t'.entry? loc = some e := by
  induction g with
  | same => exact h
  | @directory u free_loc _ free ih =>
    have apart : loc ≠ free_loc := by
      rintro rfl
      rw [free] at ih
      cases ih
    rw [entry?_put_of_ne u (ne_nil_of_entry?_eq_none free) _ apart, ih]

theorem grows_makeDirectory (h : t.makeDirectory p = .ok t') : Grows t t' := by
  unfold makeDirectory at h
  cases located : t.locateNew p with
  | error e => simp [located, Except.map] at h
  | ok loc =>
    obtain rfl : t.put loc .directory = t' := by simpa [located, Except.map] using h
    exact .directory .same (leadsTo_of_locateNew located).2

/-- What is kept when a directory is made at one of the paths in question is kept when directories
are made: at the path itself, and at the paths of its first names. -/
theorem makeDirectories_keeps {P : Tree → Prop} {Q : Path → Prop}
    (step : ∀ {u v : Tree} {q : Path}, P u → Q q → u.makeDirectory q = .ok v → P v)
    {outer : List String} (start : P t) (own : Q p)
    (further : ∀ front, front <+: outer.reverse → Q ⟨p.absolute, front, false⟩) :
    P (t.makeDirectories p outer).2 := by
  induction outer generalizing p with
  | nil =>
    unfold makeDirectories
    split
    · exact step start own ‹_›
    · exact start
    · split <;> exact start
  | cons name rest ih =>
    unfold makeDirectories
    split
    · exact step start own ‹_›
    · have outside := ih (p := ⟨p.absolute, (name :: rest).reverse, false⟩)
        (further _ List.prefix_rfl) fun front first => further front <| by
          rw [List.reverse_cons]
          exact first.trans (List.prefix_append _ _)
      -- What is outside is made first; where that fails, what was made of it stays.
      dsimp only
      split
      · rename_i outer_eq
        rw [outer_eq] at outside
        exact outside
      · rename_i outer_eq
        rw [outer_eq] at outside
        split
        · exact step outside own ‹_›
        · split <;> exact outside
    · split <;> exact start

/-- Making a directory adds directories, and does nothing else even when it fails. -/
theorem grows_createDirectory (t : Tree) (path : String) : Grows t (t.createDirectory path).2 := by
  unfold createDirectory
  split
  · exact .same
  · split
    · exact .same
    · exact makeDirectories_keeps (P := Grows t) (Q := fun _ => True)
        (fun grown _ made => grown.trans (grows_makeDirectory made)) .same trivial fun _ _ => trivial

end ProblemVisualizer.Files.Tree
