import LogWatch.Source.Follower

/-!
# A follower reads every octet once

Whoever writes to a file under a name does not wait for the follower. Between two looks the file may
grow, be emptied, or lose its name to another file, and the follower has to make out from what it
finds which of this has happened. A **scene** is a follower with the files it looks at, and with an
account of what it owes: whatever has been written since its first look, with the number of the
looks before it was written.

What can happen to the files is `LogWatch.Following.Change`; it leaves open how a file gets or loses
its name, and what else happens in the tree. When a file may lose its name is a rule given from
outside. That a new file stays for two looks (`LogWatch.Following.HasStayed`) is not enough: one
that has been emptied and written again has to be there at the next look
(`LogWatch.Following.IsRead`), or else what was written is lost.

With that rule the follower gives out what it owes, in order and each octet once, and each by the
second look after it was written. The invariant is `LogWatch.Following.Stands`, which says for each
position of the follower what it has still to give out.
-/

namespace LogWatch

/-- The file that a path stands for. -/
def FileTree.fileAt? (t : FileTree) (path : FilePath) : Option Nat :=
  match t.entry? path with
  | some (.file node _) => some node
  | _ => none

namespace Following

/-! ### Scenes -/

/-- A follower and the files it looks at. -/
structure Scene where
  /-- The files. -/
  tree : FileTree
  /-- The follower. -/
  follower : Follower
  /-- So many looks have been taken. -/
  looks : Nat
  /-- What the follower has given out. -/
  output : Bytes
  /-- What it is to give out, each octet with the number of looks before it was written. -/
  owed : List (Nat × UInt8)
  /-- The files that the path has stood for. -/
  seen : List Nat
  /-- So many looks had been taken when the path came to stand for its file. -/
  arrived : Nat
  /-- So many looks had been taken when a file was last emptied. -/
  emptied : Nat

namespace Scene

/-- The follower of a first stream, which has not looked yet. -/
def start (path : FilePath) (t : FileTree) : Scene where
  tree := t
  follower := Follower.new path true
  looks := 0
  output := []
  owed := []
  seen := (t.fileAt? path).toList
  arrived := 0
  emptied := 0

/-- It is the follower that a source gives its first stream. -/
theorem follower_start (path : FilePath) (t : FileTree) :
    (FileSource.new path).stream.follower = some (start path t).follower := rfl

/-- The scene in which the files have changed. -/
def withTree (s : Scene) (t : FileTree) : Scene := { s with tree := t }

/-- Octets that are written now are owed, unless the follower has not looked yet. -/
def owe (s : Scene) (octets : Bytes) : Scene :=
  if s.looks = 0 then s
  else { s with owed := s.owed ++ octets.map fun octet => (s.looks, octet) }

/-- What has been written to a file since the last look is gone with the file's content. -/
def forget (s : Scene) : Scene :=
  { s with
    owed := s.owed.filter fun (looks, _) => looks < s.looks
    emptied := s.looks }

/-- The path has come to stand for a file. -/
def welcome (s : Scene) (node : Nat) : Scene :=
  { s with seen := node :: s.seen, arrived := s.looks }

/-- The follower has looked. -/
def look (s : Scene) : Scene :=
  let (follower, read) := s.follower.poll s.tree
  { s with follower, looks := s.looks + 1, output := s.output ++ read }

/-- A file has been emptied since the last look. -/
def IsEmptied (s : Scene) : Prop := 0 < s.looks ∧ s.emptied = s.looks

end Scene

/-! ### What may happen -/

/-- A file of the path has the same content in both trees, unless it is that one. -/
def SameBut (s : Scene) (t : FileTree) (node : Option Nat) : Prop :=
  ∀ m ∈ s.seen, some m ≠ node → t.contentOf m = s.tree.contentOf m

/-- **What may happen to the files between two looks**; `mayLeave` says when a file may lose its
name. -/
inductive Change (mayLeave : Scene → Nat → Prop) (path : FilePath) (s : Scene) :
    Scene → Prop
  /-- Octets are added to the file. -/
  | appended (t : FileTree) (node : Nat) (octets : Bytes) :
      s.tree.fileAt? path = some node → t.fileAt? path = some node →
      t.contentOf node = s.tree.contentOf node ++ octets → SameBut s t (some node) →
      Change mayLeave path s ((s.withTree t).owe octets)
  /-- The file is emptied. The follower, if it has looked, has it open, and a file has not been
  emptied since the last look but one. -/
  | emptied (t : FileTree) (node : Nat) :
      s.tree.fileAt? path = some node → t.fileAt? path = some node →
      t.contentOf node = [] → SameBut s t (some node) →
      (0 < s.looks → ∃ offset, s.follower.tailed = some ⟨node, offset⟩) →
      (0 < s.emptied → s.emptied + 2 ≤ s.looks) →
      Change mayLeave path s (s.withTree t).forget
  /-- The file loses its name. -/
  | left (t : FileTree) (node : Nat) :
      s.tree.fileAt? path = some node → mayLeave s node → t.fileAt? path = none →
      SameBut s t none → Change mayLeave path s (s.withTree t)
  /-- A file gets the name that has not had it before, be it from another file. -/
  | appeared (t : FileTree) (node : Nat) :
      (∀ m, s.tree.fileAt? path = some m → mayLeave s m) →
      t.fileAt? path = some node → node ∉ s.seen → SameBut s t none →
      Change mayLeave path s (((s.withTree t).welcome node).owe (t.contentOf node))
  /-- Something happens to other files. -/
  | elsewhere (t : FileTree) : t.fileAt? path = s.tree.fileAt? path → SameBut s t none →
      Change mayLeave path s (s.withTree t)

/-- **What may come of a scene**: the files change, and the follower looks. A file that has been
emptied is shorter at the next look than what the follower has read of it. -/
inductive Comes (mayLeave : Scene → Nat → Prop) (path : FilePath) (t : FileTree) : Scene → Prop
  /-- Nothing has happened yet. -/
  | start : Comes mayLeave path t (Scene.start path t)
  /-- The files change. -/
  | changed {s s' : Scene} : Comes mayLeave path t s → Change mayLeave path s s' →
      Comes mayLeave path t s'
  /-- The follower looks. -/
  | looked {s : Scene} : Comes mayLeave path t s →
      (s.IsEmptied → ∃ tailed, s.follower.tailed = some tailed ∧
        (s.tree.contentOf tailed.node).length < tailed.offset) →
      Comes mayLeave path t s.look

/-- **A file stays for two looks**, unless it was there before the first. -/
def HasStayed (s : Scene) (_node : Nat) : Prop := 0 < s.arrived → s.arrived + 2 ≤ s.looks

/-- **A file stays for two looks, and until the next look if it has been emptied** and written
again. -/
def IsRead (s : Scene) (node : Nat) : Prop :=
  HasStayed s node ∧ (s.IsEmptied → s.tree.contentOf node = [])

/-- **The follower gives out what it owes**, in order and each octet once: what it has not given out
has been written since the last look but one. -/
def Delivers (s : Scene) : Prop :=
  ∃ sent rest, s.owed = sent ++ rest ∧ s.output = sent.map Prod.snd ∧
    ∀ x ∈ rest, s.looks ≤ x.1 + 1

/-! ### What can be done in a file tree -/

section Operations

variable {mayLeave : Scene → Nat → Prop} {path : FilePath} {s : Scene} {t : FileTree}
  {node : Nat} {octets : Bytes}

theorem lookup_filter_fst {α β : Type} [BEq α] [LawfulBEq α] (keep : α → Bool) (a : α)
    (l : List (α × β)) :
    (l.filter fun x => keep x.1).lookup a = if keep a then l.lookup a else none := by
  induction l with
  | nil => simp
  | cons x l ih =>
    obtain ⟨b, c⟩ := x
    by_cases hab : a = b
    · subst hab
      cases hkeep : keep a <;> simp [hkeep, ih]
    · have hne : (a == b) = false := beq_eq_false_iff_ne.mpr hab
      cases hkeep : keep b <;> simp [hkeep, ih, List.lookup_cons, hne]

theorem contentOf_setContent (t : FileTree) (node m : Nat) (octets : Bytes) :
    (t.setContent node octets).contentOf m = if m = node then octets else t.contentOf m := by
  by_cases h : m = node
  · simp [FileTree.contentOf, FileTree.setContent, h]
  · have hne : (m == node) = false := beq_eq_false_iff_ne.mpr h
    have hlookup := lookup_filter_fst (fun n => n != node) m t.contents
    simp only [bne, hne, Bool.not_false, if_true] at hlookup
    simp [FileTree.contentOf, FileTree.setContent, List.lookup_cons, hne, h, bne, hlookup]

theorem exists_mode (h : t.fileAt? path = some node) :
    ∃ mode, t.entry? path = some (.file node mode) := by
  rw [FileTree.fileAt?] at h
  split at h
  · next n mode hentry =>
    obtain rfl := Option.some.inj h
    exact ⟨mode, hentry⟩
  · simp at h

theorem fileAt?_dropEntry (t : FileTree) (path : FilePath) :
    (t.dropEntry path).fileAt? path = none := by
  have hlookup : (t.names.filter fun x => x.1 != path).lookup path = none := by
    rw [lookup_filter_fst (fun p => p != path)]
    simp
  cases hroot : path.isEmpty <;>
    simp [FileTree.fileAt?, FileTree.entry?, FileTree.dropEntry, hroot, hlookup]

theorem fileAt?_setEntry (h : path ≠ []) (mode : Nat) :
    (t.setEntry path (.file node mode)).fileAt? path = some node := by
  have hlookup : (t.names.filter fun x => x.1 != path).lookup path = none := by
    rw [lookup_filter_fst (fun p => p != path)]
    simp
  simp [FileTree.fileAt?, FileTree.entry?, FileTree.setEntry, h, List.lookup_append, hlookup]

theorem fileAt?_setEntry_of_ne {target : FilePath} (h : path ≠ target) (e : FileEntry) :
    (t.setEntry target e).fileAt? path = t.fileAt? path := by
  have hne : (path == target) = false := beq_eq_false_iff_ne.mpr h
  have hlookup := lookup_filter_fst (fun p => p != target) path t.names
  simp only [bne, hne, Bool.not_false, if_true] at hlookup
  simp [FileTree.fileAt?, FileTree.entry?, FileTree.setEntry, List.lookup_append, bne, hlookup,
    List.lookup_cons, hne]

/-- Octets may be added to the file. -/
theorem change_of_append (octets : Bytes) (hfile : s.tree.fileAt? path = some node)
    (h : s.tree.append path octets = .ok t) :
    Change mayLeave path s ((s.withTree t).owe octets) := by
  obtain ⟨mode, hentry⟩ := exists_mode hfile
  rw [FileTree.append, hentry] at h
  obtain rfl := Except.ok.inj h
  refine .appended _ node octets hfile hfile ?_ fun m _ hm => ?_
  · rw [contentOf_setContent, if_pos rfl]
  · rw [contentOf_setContent, if_neg fun h => hm (congrArg some h)]

/-- The file may be emptied. -/
theorem change_of_write_nil (hfile : s.tree.fileAt? path = some node)
    (hopen : 0 < s.looks → ∃ offset, s.follower.tailed = some ⟨node, offset⟩)
    (hlast : 0 < s.emptied → s.emptied + 2 ≤ s.looks) (h : s.tree.write path [] = .ok t) :
    Change mayLeave path s (s.withTree t).forget := by
  obtain ⟨mode, hentry⟩ := exists_mode hfile
  rw [FileTree.write, hentry] at h
  obtain rfl := Except.ok.inj h
  refine .emptied _ node hfile hfile ?_ (fun m _ hm => ?_) hopen hlast
  · rw [contentOf_setContent, if_pos rfl]
  · rw [contentOf_setContent, if_neg fun h => hm (congrArg some h)]

/-- The file may be removed. -/
theorem change_of_remove (hfile : s.tree.fileAt? path = some node) (hleave : mayLeave s node)
    (h : s.tree.remove path = .ok t) : Change mayLeave path s (s.withTree t) := by
  obtain ⟨mode, hentry⟩ := exists_mode hfile
  rw [FileTree.remove, hentry] at h
  obtain rfl := Except.ok.inj h
  exact .left _ node hfile hleave (fileAt?_dropEntry _ _) fun m _ _ => rfl

/-- A file that can be renamed is found under its new name alone. -/
theorem rename_eq_ok {target : FilePath} {mode : Nat}
    (hentry : s.tree.entry? path = some (.file node mode))
    (h : s.tree.rename path target = .ok t) :
    t = (s.tree.dropEntry path).setEntry target (.file node mode) := by
  simp only [FileTree.rename, hentry] at h
  split at h
  · next heq => simp at heq
  · next heq => simp at heq
  · simp at h
  · next heq hno =>
    obtain ⟨rfl, rfl⟩ := FileEntry.file.inj (Option.some.inj heq)
    cases hparent : s.tree.checkParent target with
    | error fault => simp [hparent, bind, Except.bind] at h
    | ok u => simpa [hparent, bind, Except.bind, pure, Except.pure, eq_comm] using h

/-- The file may get another name. -/
theorem change_of_rename {target : FilePath} (htarget : path ≠ target)
    (hfile : s.tree.fileAt? path = some node) (hleave : mayLeave s node)
    (h : s.tree.rename path target = .ok t) : Change mayLeave path s (s.withTree t) := by
  obtain ⟨mode, hentry⟩ := exists_mode hfile
  obtain rfl := rename_eq_ok hentry h
  exact .left _ node hfile hleave
    ((fileAt?_setEntry_of_ne htarget _).trans (fileAt?_dropEntry _ _)) fun m _ _ => rfl

/-- **A file that is made is a new one.** -/
theorem create_eq_ok {mode : Nat} {t t' : FileTree} (h : t.create path mode octets = .ok t') :
    t'.fileAt? path = some t.fresh ∧ t'.contentOf t.fresh = octets ∧
      ∀ m, m ≠ t.fresh → t'.contentOf m = t.contentOf m := by
  rw [FileTree.create] at h
  split at h
  · simp [bind, Except.bind, throw, throwThe, MonadExceptOf.throw] at h
  · next hentry =>
    have hroot : path ≠ [] := by
      rintro rfl
      simp [FileTree.entry?] at hentry
    cases hparent : t.checkParent path with
    | error fault => simp [hparent, bind, Except.bind] at h
    | ok u =>
      simp only [hparent, bind, Except.bind, pure, Except.pure, Except.ok.injEq] at h
      subst h
      refine ⟨fileAt?_setEntry hroot mode, ?_, fun m hm => ?_⟩
      · exact (contentOf_setContent t t.fresh t.fresh octets).trans (if_pos rfl)
      · exact (contentOf_setContent t t.fresh m octets).trans (if_neg hm)

/-- A file may be made where there is none. -/
theorem change_of_create {mode : Nat} (hnone : s.tree.fileAt? path = none)
    (hfresh : s.tree.fresh ∉ s.seen) (h : s.tree.create path mode octets = .ok t) :
    Change mayLeave path s (((s.withTree t).welcome s.tree.fresh).owe octets) := by
  obtain ⟨hfile, hcontent, hsame⟩ := create_eq_ok h
  rw [← hcontent]
  exact .appeared t s.tree.fresh (fun m hm => absurd (hnone.symm.trans hm) (by simp)) hfile hfresh
    fun m hm _ => hsame m fun h => hfresh (h ▸ hm)

/-- A new file may be put in the place of the file. -/
theorem change_of_replace (octets : Bytes) (hfile : s.tree.fileAt? path = some node)
    (hleave : mayLeave s node) (hfresh : s.tree.fresh ∉ s.seen)
    (h : s.tree.replace path octets = .ok t) :
    Change mayLeave path s (((s.withTree t).welcome s.tree.fresh).owe octets) := by
  rw [FileTree.replace] at h
  split at h
  · simp at h
  · obtain ⟨hfile', hcontent, hsame⟩ := create_eq_ok h
    have hfresh' : (s.tree.dropEntry path).fresh = s.tree.fresh := rfl
    rw [hfresh'] at hfile' hcontent hsame
    rw [← hcontent]
    refine .appeared t s.tree.fresh (fun m hm => ?_) hfile' hfresh
      fun m hm _ => hsame m fun h => hfresh (h ▸ hm)
    obtain rfl : node = m := Option.some.inj (hfile.symm.trans hm)
    exact hleave

end Operations

/-! ### What a look does -/

section Looking

variable {t : FileTree} {f : Follower} {node offset : Nat}

/-- A follower without an open file opens the one it finds. -/
theorem openFile_of_tailed_eq_none (h : f.tailed = none) :
    f.openFile t = { f with
      fromEnd := false
      tailed := (t.fileAt? f.path).map fun node =>
        ⟨node, if f.fromEnd then (t.contentOf node).length else 0⟩ } := by
  rw [Follower.openFile, FileTree.fileAt?, h]
  cases hentry : t.entry? f.path with
  | none => rfl
  | some e => cases e <;> rfl

theorem openFile_of_tailed_eq_some {tailed : Tailed} (h : f.tailed = some tailed) :
    f.openFile t = f := by
  rw [Follower.openFile, h]

/-- A file is kept open as long as the path stands for it. -/
theorem turn_eq {path : FilePath} {tailed : Tailed} :
    Follower.turn t path tailed =
      if t.fileAt? path = some tailed.node then
        if (t.contentOf tailed.node).length < tailed.offset then some { tailed with offset := 0 }
        else some tailed
      else none := by
  rw [Follower.turn, FileTree.fileAt?]
  cases hentry : t.entry? path with
  | none => simp
  | some e =>
    cases e with
    | directory mode => simp
    | file node mode =>
      by_cases hnode : node = tailed.node
      · simp [hnode]
      · simp [hnode]

/-- A follower with an open file reads it to its end. -/
theorem poll_of_tailed (h : f.tailed = some ⟨node, offset⟩) :
    let read := (t.contentOf node).drop offset
    f.poll t =
      ({ f with tailed := Follower.turn t f.path ⟨node, offset + read.length⟩ }, read) := by
  simp only [Follower.poll, openFile_of_tailed_eq_some h, h]

/-- It keeps a file that still has its name. -/
theorem poll_of_fileAt?_eq (h : f.tailed = some ⟨node, offset⟩)
    (hfile : t.fileAt? f.path = some node) (hoffset : offset ≤ (t.contentOf node).length) :
    f.poll t = ({ f with tailed := some ⟨node, (t.contentOf node).length⟩ },
      (t.contentOf node).drop offset) := by
  have hend : offset + ((t.contentOf node).drop offset).length = (t.contentOf node).length := by
    rw [List.length_drop]
    omega
  simp only [poll_of_tailed h, turn_eq, hfile, hend, if_true, Nat.lt_irrefl, if_false]

/-- It begins a file anew that has become shorter. -/
theorem poll_of_length_lt (h : f.tailed = some ⟨node, offset⟩)
    (hfile : t.fileAt? f.path = some node) (hlt : (t.contentOf node).length < offset) :
    f.poll t = ({ f with tailed := some ⟨node, 0⟩ }, []) := by
  have hdrop : (t.contentOf node).drop offset = [] := List.drop_eq_nil_of_le (Nat.le_of_lt hlt)
  simp only [poll_of_tailed h, turn_eq, hfile, hdrop, List.length_nil, Nat.add_zero, hlt, if_true]

/-- It closes a file that has lost its name. -/
theorem poll_of_fileAt?_ne (h : f.tailed = some ⟨node, offset⟩)
    (hfile : t.fileAt? f.path ≠ some node) :
    f.poll t = ({ f with tailed := none }, (t.contentOf node).drop offset) := by
  simp only [poll_of_tailed h, turn_eq, hfile, if_false]

/-- A follower that finds no file reads nothing. -/
theorem poll_of_fileAt?_eq_none (h : f.tailed = none) (hfile : t.fileAt? f.path = none) :
    f.poll t = ({ f with fromEnd := false }, []) := by
  simp only [Follower.poll, openFile_of_tailed_eq_none h, hfile, Option.map_none]
  rw [← h]

/-- A follower that finds a file reads it from where it begins. -/
theorem poll_of_fileAt?_eq_some (h : f.tailed = none) (hfile : t.fileAt? f.path = some node) :
    f.poll t = ({ f with fromEnd := false, tailed := some ⟨node, (t.contentOf node).length⟩ },
      if f.fromEnd then [] else t.contentOf node) := by
  simp only [Follower.poll, openFile_of_tailed_eq_none h, hfile, Option.map_some]
  cases f.fromEnd <;> simp [turn_eq, hfile]

theorem poll_path : (f.poll t).1.path = f.path := by
  cases h : f.tailed with
  | none =>
    cases hfile : t.fileAt? f.path with
    | none => rw [poll_of_fileAt?_eq_none h hfile]
    | some node => rw [poll_of_fileAt?_eq_some h hfile]
  | some tailed => rw [poll_of_tailed h]

/-- A follower that has looked reads files from their start. -/
theorem poll_fromEnd (h : f.tailed ≠ none → f.fromEnd = false) : (f.poll t).1.fromEnd = false := by
  cases htailed : f.tailed with
  | none =>
    cases hfile : t.fileAt? f.path with
    | none => rw [poll_of_fileAt?_eq_none htailed hfile]
    | some node => rw [poll_of_fileAt?_eq_some htailed hfile]
  | some tailed =>
    rw [poll_of_tailed htailed]
    exact h (by simp [htailed])

/-- After a look the open file is the one at the path. -/
theorem fileAt?_of_poll {tailed : Tailed} (h : (f.poll t).1.tailed = some tailed) :
    t.fileAt? f.path = some tailed.node := by
  cases htailed : f.tailed with
  | none =>
    cases hfile : t.fileAt? f.path with
    | none =>
      rw [poll_of_fileAt?_eq_none htailed hfile] at h
      exact absurd (htailed.symm.trans h) (by simp)
    | some node =>
      rw [poll_of_fileAt?_eq_some htailed hfile] at h
      rw [← Option.some.inj h]
  | some tailed' =>
    rw [poll_of_tailed htailed] at h
    simp only [turn_eq] at h
    split at h
    · next hfile =>
      split at h <;> rw [← Option.some.inj h, hfile]
    · simp at h

end Looking

/-! ### What the follower has still to give out -/

/-- What the path stands for. -/
def named (t : FileTree) (path : FilePath) : Bytes :=
  match t.fileAt? path with
  | some node => t.contentOf node
  | none => []

/-- The file at the path has come since the last look but one. -/
def Scene.IsNew (s : Scene) (path : FilePath) : Prop :=
  ∀ node, s.tree.fileAt? path = some node → 0 < s.arrived ∧ s.looks ≤ s.arrived + 1

/-- **Where the follower stands and what it has still to give out.** -/
inductive Stands (path : FilePath) (s : Scene) (rest : List (Nat × UInt8)) : Prop
  /-- It has no file, and any file at the path is new. -/
  | idle : s.follower.tailed = none → rest.map Prod.snd = named s.tree path →
      (∀ x ∈ rest, s.looks ≤ x.1 + 1) → s.IsNew path → Stands path s rest
  /-- It reads the file at the path; after a look only what it has begun anew is left. -/
  | reading (node offset : Nat) : s.follower.tailed = some ⟨node, offset⟩ →
      s.tree.fileAt? path = some node → offset ≤ (s.tree.contentOf node).length →
      rest.map Prod.snd = (s.tree.contentOf node).drop offset → ¬s.IsEmptied →
      (∀ x ∈ rest, x.1 = s.looks ∨ x.1 + 1 = s.looks ∧ 0 < s.emptied ∧ s.emptied = x.1) →
      Stands path s rest
  /-- It will have to begin anew. -/
  | rewinding (node offset : Nat) : s.follower.tailed = some ⟨node, offset⟩ →
      s.tree.fileAt? path = some node → s.IsEmptied →
      rest.map Prod.snd = s.tree.contentOf node → (∀ x ∈ rest, x.1 = s.looks) →
      Stands path s rest
  /-- It has still to read the end of a file that has lost the name. -/
  | leaving (node offset : Nat) (first second : List (Nat × UInt8)) :
      s.follower.tailed = some ⟨node, offset⟩ → s.tree.fileAt? path ≠ some node →
      rest = first ++ second → first.map Prod.snd = (s.tree.contentOf node).drop offset →
      second.map Prod.snd = named s.tree path → (∀ x ∈ first, s.looks ≤ x.1 + 1) →
      (∀ x ∈ second, x.1 = s.looks) →
      (∀ m, s.tree.fileAt? path = some m → 0 < s.arrived ∧ s.looks ≤ s.arrived) →
      Stands path s rest

/-- **The account is in order**: `sent` is what the follower has given out of what it owes, and
`rest` what it has still to give out. -/
structure Kept (path : FilePath) (s : Scene) (sent rest : List (Nat × UInt8)) : Prop where
  /-- The follower has looked. -/
  looked : 0 < s.looks
  /-- What was given out comes first. -/
  owed : s.owed = sent ++ rest
  /-- It is what has been given out. -/
  output : s.output = sent.map Prod.snd
  /-- It was written before the last look. -/
  sent_lt : ∀ x ∈ sent, x.1 < s.looks
  /-- Nothing is written in the time to come. -/
  rest_le : ∀ x ∈ rest, x.1 ≤ s.looks
  /-- No file is emptied then. -/
  emptied_le : s.emptied ≤ s.looks
  /-- The file at the path is one of those that have been there. -/
  file_mem : ∀ node, s.tree.fileAt? path = some node → node ∈ s.seen
  /-- So is the open file. -/
  tailed_mem : ∀ tailed, s.follower.tailed = some tailed → tailed.node ∈ s.seen
  /-- The follower looks at the path. -/
  follows : s.follower.path = path
  /-- It reads files from their start. -/
  fromEnd : s.follower.fromEnd = false
  /-- The follower stands where it should. -/
  stands : Stands path s rest

section Changes

variable {path : FilePath} {s : Scene} {t : FileTree} {rest : List (Nat × UInt8)} {node : Nat}

theorem named_of_fileAt?_eq_some (h : t.fileAt? path = some node) :
    named t path = t.contentOf node := by
  rw [named, h]

theorem named_of_fileAt?_eq_none (h : t.fileAt? path = none) : named t path = [] := by
  rw [named, h]

/-- What has just been written. -/
theorem map_snd_stamped (octets : Bytes) (looks : Nat) :
    (octets.map fun octet => (looks, octet)).map Prod.snd = octets := by
  simp [Function.comp_def]

theorem stamp_of_mem {octets : Bytes} {looks : Nat} {x : Nat × UInt8}
    (hx : x ∈ octets.map fun octet => (looks, octet)) : x.1 = looks := by
  obtain ⟨octet, -, rfl⟩ := List.mem_map.mp hx
  rfl

theorem owe_of_pos {octets : Bytes} (h : 0 < s.looks) :
    s.owe octets = { s with owed := s.owed ++ octets.map fun octet => (s.looks, octet) } :=
  if_neg (Nat.ne_of_gt h)

/-- The follower stands where it stood as far as the account does not matter. -/
theorem Stands.of_owed (h : Stands path s rest) {owed : List (Nat × UInt8)} :
    Stands path { s with owed } rest := by
  cases h with
  | idle h1 h2 h3 h4 => exact .idle h1 h2 h3 h4
  | reading n o h1 h2 h3 h4 h5 h6 => exact .reading n o h1 h2 h3 h4 h5 h6
  | rewinding n o h1 h2 h3 h4 h5 => exact .rewinding n o h1 h2 h3 h4 h5
  | leaving n o a b h1 h2 h3 h4 h5 h6 h7 h8 => exact .leaving n o a b h1 h2 h3 h4 h5 h6 h7 h8

/-- **What is added to the file is added to what is to be given out.** -/
theorem Stands.append (h : Stands path s rest) {octets : Bytes}
    (htailed : ∀ tailed, s.follower.tailed = some tailed → tailed.node ∈ s.seen)
    (hfile : s.tree.fileAt? path = some node) (hfile' : t.fileAt? path = some node)
    (hcontent : t.contentOf node = s.tree.contentOf node ++ octets)
    (hsame : SameBut s t (some node)) :
    Stands path (s.withTree t) (rest ++ octets.map fun octet => (s.looks, octet)) := by
  have hnew : ∀ x ∈ octets.map fun octet => (s.looks, octet), x.1 = s.looks :=
    fun x hx => stamp_of_mem hx
  have hnamed : named t path = named s.tree path ++ octets := by
    rw [named_of_fileAt?_eq_some hfile', named_of_fileAt?_eq_some hfile, hcontent]
  cases h with
  | idle hidle hrest hrecent hisnew =>
    refine .idle hidle ?_ ?_ fun m _ => hisnew node hfile
    · rw [List.map_append, hrest, map_snd_stamped]
      exact hnamed.symm
    · intro x hx
      rcases List.mem_append.mp hx with hx | hx
      · exact hrecent x hx
      · exact Nat.le_succ_of_le (Nat.le_of_eq (hnew x hx).symm)
  | reading n offset htail hn hoffset hrest hemptied hstamps =>
    obtain rfl : n = node := Option.some.inj (hn.symm.trans hfile)
    refine .reading n offset htail hfile' ?_ ?_ hemptied ?_
    · change _ ≤ (t.contentOf n).length
      rw [hcontent, List.length_append]
      exact Nat.le_add_right_of_le hoffset
    · change _ = (t.contentOf n).drop offset
      rw [hcontent, List.map_append, hrest, map_snd_stamped, List.drop_append_of_le_length hoffset]
    · intro x hx
      rcases List.mem_append.mp hx with hx | hx
      · exact hstamps x hx
      · exact .inl (hnew x hx)
  | rewinding n offset htail hn hemptied hrest hstamps =>
    obtain rfl : n = node := Option.some.inj (hn.symm.trans hfile)
    refine .rewinding n offset htail hfile' hemptied ?_ ?_
    · change _ = t.contentOf n
      rw [hcontent, List.map_append, hrest, map_snd_stamped]
    · exact fun x hx => (List.mem_append.mp hx).elim (hstamps x) (hnew x)
  | leaving n offset first second htail hn hsplit hfirst hsecond hrecent hstamps hisnew =>
    have hne : n ≠ node := fun h => hn (h ▸ hfile)
    refine .leaving n offset first (second ++ octets.map fun octet => (s.looks, octet)) htail
      ?_ ?_ ?_ ?_ hrecent ?_ fun m _ => hisnew node hfile
    · exact fun h => hne (Option.some.inj (h.symm.trans hfile'))
    · rw [hsplit, List.append_assoc]
    · rw [hfirst]
      change _ = (t.contentOf n).drop offset
      rw [hsame n (htailed _ htail) (by simpa using hne)]
    · rw [List.map_append, hsecond, map_snd_stamped]
      exact hnamed.symm
    · exact fun x hx => (List.mem_append.mp hx).elim (hstamps x) (hnew x)

/-- **When the file at the path leaves, only the end of the open file is left.** -/
theorem Stands.leave (h : Stands path s rest)
    (hread : ∀ m, s.tree.fileAt? path = some m → IsRead s m) :
    s.follower.tailed = none ∧ rest = [] ∨ ∃ n offset, s.follower.tailed = some ⟨n, offset⟩ ∧
      rest.map Prod.snd = (s.tree.contentOf n).drop offset ∧ ∀ x ∈ rest, s.looks ≤ x.1 + 1 := by
  cases h with
  | idle hidle hrest hrecent hisnew =>
    cases hfile : s.tree.fileAt? path with
    | none =>
      rw [named_of_fileAt?_eq_none hfile] at hrest
      exact .inl ⟨hidle, List.map_eq_nil_iff.mp hrest⟩
    | some m =>
      -- a file that is new may not leave
      obtain ⟨harrived, hlooks⟩ := hisnew m hfile
      have := (hread m hfile).1 harrived
      omega
  | reading n offset htail hn hoffset hrest hemptied hstamps =>
    refine .inr ⟨n, offset, htail, hrest, fun x hx => ?_⟩
    rcases hstamps x hx with h | ⟨h, -⟩ <;> omega
  | rewinding n offset htail hn hemptied hrest hstamps =>
    -- nothing has been written to a file that has been emptied and leaves
    have hempty := (hread n hn).2 hemptied
    rw [hempty, List.map_eq_nil_iff] at hrest
    exact .inr ⟨n, offset, htail, by simp [hempty, hrest], by simp [hrest]⟩
  | leaving n offset first second htail hn hsplit hfirst hsecond hrecent hstamps hisnew =>
    cases hfile : s.tree.fileAt? path with
    | none =>
      rw [named_of_fileAt?_eq_none hfile, List.map_eq_nil_iff] at hsecond
      rw [hsplit, hsecond, List.append_nil]
      exact .inr ⟨n, offset, htail, hfirst, hrecent⟩
    | some m =>
      obtain ⟨harrived, hlooks⟩ := hisnew m hfile
      have := (hread m hfile).1 harrived
      omega

/-- The follower will find that the file has lost its name. -/
theorem Stands.left (h : Stands path s rest)
    (hread : ∀ m, s.tree.fileAt? path = some m → IsRead s m)
    (htailed : ∀ tailed, s.follower.tailed = some tailed → tailed.node ∈ s.seen)
    (hfile : t.fileAt? path = none) (hsame : SameBut s t none) :
    Stands path (s.withTree t) rest := by
  rcases h.leave hread with ⟨hidle, rfl⟩ | ⟨n, offset, htail, hrest, hrecent⟩
  · exact .idle hidle (named_of_fileAt?_eq_none hfile).symm (by simp)
      fun m hm => absurd (hfile.symm.trans hm) (by simp)
  · refine .leaving n offset rest [] htail (by simp [Scene.withTree, hfile])
      (List.append_nil _).symm ?_ (named_of_fileAt?_eq_none hfile).symm hrecent (by simp)
      fun m hm => absurd (hfile.symm.trans hm) (by simp)
    rw [hrest]
    change _ = (t.contentOf n).drop offset
    rw [hsame n (htailed _ htail) (by simp)]

/-- **All that a new file holds is to be given out.** -/
theorem Stands.appear (h : Stands path s rest) (hlooks : 0 < s.looks)
    (hread : ∀ m, s.tree.fileAt? path = some m → IsRead s m)
    (htailed : ∀ tailed, s.follower.tailed = some tailed → tailed.node ∈ s.seen)
    (hfile : t.fileAt? path = some node) (hfresh : node ∉ s.seen) (hsame : SameBut s t none) :
    Stands path ((s.withTree t).welcome node)
      (rest ++ (t.contentOf node).map fun octet => (s.looks, octet)) := by
  have hnamed : ((t.contentOf node).map fun octet => (s.looks, octet)).map Prod.snd =
      named t path := by
    rw [map_snd_stamped, named_of_fileAt?_eq_some hfile]
  have hnew : ∀ x ∈ (t.contentOf node).map fun octet => (s.looks, octet), x.1 = s.looks :=
    fun x hx => stamp_of_mem hx
  rcases h.leave hread with ⟨hidle, rfl⟩ | ⟨n, offset, htail, hrest, hrecent⟩
  · refine .idle hidle hnamed (fun x hx => ?_) fun m _ => ⟨hlooks, Nat.le_succ _⟩
    exact Nat.le_succ_of_le (Nat.le_of_eq (hnew x hx).symm)
  · have hmem : n ∈ s.seen := htailed _ htail
    refine .leaving n offset rest _ htail ?_ rfl ?_ hnamed hrecent hnew
      fun m _ => ⟨hlooks, Nat.le_refl _⟩
    · exact fun h => hfresh (Option.some.inj (hfile.symm.trans h) ▸ hmem)
    · rw [hrest]
      change _ = (t.contentOf n).drop offset
      rw [hsame n hmem (by simp)]

/-- **A file that is emptied leaves nothing to be given out**; the follower had given out all but
what was written since its last look. -/
theorem Stands.empty (h : Stands path s rest) (hlooks : 0 < s.looks)
    (hfile : s.tree.fileAt? path = some node) (hfile' : t.fileAt? path = some node)
    (hcontent : t.contentOf node = [])
    (hopen : ∃ offset, s.follower.tailed = some ⟨node, offset⟩)
    (hlast : 0 < s.emptied → s.emptied + 2 ≤ s.looks) :
    (∀ x ∈ rest, x.1 = s.looks) ∧ Stands path (s.withTree t).forget [] := by
  obtain ⟨offset, htail⟩ := hopen
  refine ⟨?_, .rewinding node offset htail hfile' ⟨hlooks, rfl⟩ hcontent.symm (by simp)⟩
  cases h with
  | idle hidle hrest hrecent hisnew => simp [hidle] at htail
  | reading n o htail' hn hoffset hrest hemptied hstamps =>
    intro x hx
    rcases hstamps x hx with h | ⟨h, hpos, hx⟩
    · exact h
    · have := hlast hpos
      omega
  | rewinding n o htail' hn hemptied hrest hstamps => exact hstamps
  | leaving n o first second htail' hn =>
    obtain ⟨rfl, -⟩ := Tailed.mk.inj (Option.some.inj (htail'.symm.trans htail))
    exact absurd hfile hn

/-- What happens to other files does not matter. -/
theorem Stands.elsewhere (h : Stands path s rest)
    (hfile : ∀ n, s.tree.fileAt? path = some n → n ∈ s.seen)
    (htailed : ∀ tailed, s.follower.tailed = some tailed → tailed.node ∈ s.seen)
    (hsamefile : t.fileAt? path = s.tree.fileAt? path) (hsame : SameBut s t none) :
    Stands path (s.withTree t) rest := by
  have hcontent : ∀ n ∈ s.seen, t.contentOf n = s.tree.contentOf n :=
    fun n hn => hsame n hn (by simp)
  have hnamed : named t path = named s.tree path := by
    cases h : s.tree.fileAt? path with
    | none => rw [named_of_fileAt?_eq_none h, named_of_fileAt?_eq_none (hsamefile.trans h)]
    | some n =>
      rw [named_of_fileAt?_eq_some h, named_of_fileAt?_eq_some (hsamefile.trans h),
        hcontent n (hfile n h)]
  cases h with
  | idle hidle hrest hrecent hisnew =>
    exact .idle hidle (hrest.trans hnamed.symm) hrecent
      fun m hm => hisnew m (hsamefile.symm.trans hm)
  | reading n offset htail hn hoffset hrest hemptied hstamps =>
    have hn' := hcontent n (hfile n hn)
    refine .reading n offset htail (hsamefile.trans hn) ?_ ?_ hemptied hstamps
    · change _ ≤ (t.contentOf n).length
      rwa [hn']
    · change _ = (t.contentOf n).drop offset
      rwa [hn']
  | rewinding n offset htail hn hemptied hrest hstamps =>
    exact .rewinding n offset htail (hsamefile.trans hn) hemptied
      (hrest.trans (hcontent n (hfile n hn)).symm) hstamps
  | leaving n offset first second htail hn hsplit hfirst hsecond hrecent hstamps hisnew =>
    refine .leaving n offset first second htail (fun h => hn (hsamefile.symm.trans h)) hsplit ?_
      (hsecond.trans hnamed.symm) hrecent hstamps fun m hm => hisnew m (hsamefile.symm.trans hm)
    rw [hfirst]
    change _ = (t.contentOf n).drop offset
    rw [hcontent n (htailed _ htail)]

end Changes

/-! ### What a look gives out -/

section Looks

variable {path : FilePath} {s : Scene} {rest : List (Nat × UInt8)}

theorem output_look : s.look.output = s.output ++ (s.follower.poll s.tree).2 := rfl

/-- No file has been emptied since a look that has just been taken. -/
theorem not_isEmptied_look (h : s.emptied ≤ s.looks) : ¬s.look.IsEmptied :=
  fun hemptied => Nat.not_succ_le_self _ (Nat.le_trans (Nat.le_of_eq hemptied.2.symm) h)

/-- **What a look leaves to be given out**: the follower gives out the first part of what it had. -/
theorem Stands.look (h : Stands path s rest) (hpath : s.follower.path = path)
    (hend : s.follower.fromEnd = false) (hemptied_le : s.emptied ≤ s.looks)
    (hshort : s.IsEmptied → ∃ tailed, s.follower.tailed = some tailed ∧
      (s.tree.contentOf tailed.node).length < tailed.offset) :
    ∃ first second, rest = first ++ second ∧
      (s.follower.poll s.tree).2 = first.map Prod.snd ∧ Stands path s.look second := by
  subst hpath
  cases h with
  | idle hidle hrest hrecent hisnew =>
    cases hfile : s.tree.fileAt? s.follower.path with
    | none =>
      have hpoll := poll_of_fileAt?_eq_none hidle hfile
      rw [named_of_fileAt?_eq_none hfile, List.map_eq_nil_iff] at hrest
      refine ⟨[], [], hrest, by rw [hpoll]; rfl, .idle ?_ ?_ (by simp) ?_⟩
      · simp [Scene.look, hpoll, hidle]
      · exact (named_of_fileAt?_eq_none hfile).symm
      · exact fun m hm => absurd (hfile.symm.trans hm) (by simp)
    | some m =>
      have hpoll := poll_of_fileAt?_eq_some hidle hfile
      rw [named_of_fileAt?_eq_some hfile] at hrest
      refine ⟨rest, [], (List.append_nil _).symm, by rw [hpoll, hend]; exact hrest.symm,
        .reading m (s.tree.contentOf m).length ?_ hfile (Nat.le_refl _) ?_
          (not_isEmptied_look hemptied_le) (by simp)⟩
      · simp [Scene.look, hpoll]
      · simp [Scene.look]
  | reading n offset htail hn hoffset hrest hemptied hstamps =>
    have hpoll := poll_of_fileAt?_eq htail hn hoffset
    refine ⟨rest, [], (List.append_nil _).symm, by rw [hpoll]; exact hrest.symm,
      .reading n (s.tree.contentOf n).length ?_ hn (Nat.le_refl _) ?_
        (not_isEmptied_look hemptied_le) (by simp)⟩
    · simp [Scene.look, hpoll]
    · simp [Scene.look]
  | rewinding n offset htail hn hemptied hrest hstamps =>
    -- what has been written since the file was emptied is left for the next look
    obtain ⟨tailed, htail', hlt⟩ := hshort hemptied
    obtain rfl := Option.some.inj (htail.symm.trans htail')
    have hpoll := poll_of_length_lt htail hn hlt
    refine ⟨[], rest, rfl, by rw [hpoll]; rfl,
      .reading n 0 ?_ hn (Nat.zero_le _) hrest (not_isEmptied_look hemptied_le) fun x hx => ?_⟩
    · simp [Scene.look, hpoll]
    · rw [hstamps x hx]
      exact .inr ⟨rfl, hemptied.2 ▸ hemptied.1, hemptied.2⟩
  | leaving n offset first second htail hn hsplit hfirst hsecond hrecent hstamps hisnew =>
    have hpoll := poll_of_fileAt?_ne htail hn
    refine ⟨first, second, hsplit, by rw [hpoll]; exact hfirst.symm,
      .idle ?_ hsecond (fun x hx => ?_) fun m hm => ?_⟩
    · simp [Scene.look, hpoll]
    · exact Nat.succ_le_succ (Nat.le_of_eq (hstamps x hx).symm)
    · exact ⟨(hisnew m hm).1, Nat.succ_le_succ (hisnew m hm).2⟩

end Looks

/-! ### All that may come -/

section Runs

variable {path : FilePath} {s s' : Scene} {t : FileTree} {sent rest : List (Nat × UInt8)}

/-- The follower has not looked yet, and owes nothing. -/
structure Unlooked (path : FilePath) (s : Scene) : Prop where
  looks : s.looks = 0
  owed : s.owed = []
  output : s.output = []
  follower : s.follower = Follower.new path true
  arrived : s.arrived = 0
  emptied : s.emptied = 0
  file_mem : ∀ node, s.tree.fileAt? path = some node → node ∈ s.seen

theorem unlooked_start (path : FilePath) (t : FileTree) : Unlooked path (Scene.start path t) where
  looks := rfl
  owed := rfl
  output := rfl
  follower := rfl
  arrived := rfl
  emptied := rfl
  file_mem node h := by simp [Scene.start, show t.fileAt? path = some node from h]

theorem owe_of_eq_zero (h : s.looks = 0) (octets : Bytes) : s.owe octets = s := if_pos h

/-- **Before the first look nothing is owed, whatever happens.** -/
theorem Unlooked.change {mayLeave : Scene → Nat → Prop} (hu : Unlooked path s)
    (hc : Change mayLeave path s s') : Unlooked path s' := by
  cases hc with
  | appended t node octets hfile hfile' hcontent hsame =>
    rw [owe_of_eq_zero (s := s.withTree t) hu.looks]
    exact { hu with
      file_mem := fun n hn => hu.file_mem n (hfile.trans (hfile'.symm.trans hn)) }
  | emptied t node hfile hfile' hcontent hsame hopen hlast =>
    exact { hu with
      owed := by simp [Scene.forget, Scene.withTree, hu.owed]
      emptied := hu.looks
      file_mem := fun n hn => hu.file_mem n (hfile.trans (hfile'.symm.trans hn)) }
  | left t node hfile hleave hfile' hsame =>
    exact { hu with
      file_mem := fun n hn => absurd (hfile'.symm.trans hn) (by simp) }
  | appeared t node hleave hfile hfresh hsame =>
    rw [owe_of_eq_zero (s := (s.withTree t).welcome node) hu.looks]
    exact { hu with
      arrived := hu.looks
      file_mem := fun n hn => by
        obtain rfl : node = n := Option.some.inj (hfile.symm.trans hn)
        exact List.mem_cons_self }
  | elsewhere t hfile hsame =>
    exact { hu with
      file_mem := fun n hn => hu.file_mem n (hfile.symm.trans hn) }

/-- **The first look leaves out what is there already.** -/
theorem Unlooked.look (hu : Unlooked path s) : Kept path s.look [] [] := by
  have hidle : s.follower.tailed = none := by rw [hu.follower]; rfl
  have hpath : s.follower.path = path := by rw [hu.follower]; rfl
  have hend : s.follower.fromEnd = true := by rw [hu.follower]; rfl
  have hread : (s.follower.poll s.tree).2 = [] ∧ Stands path s.look [] := by
    cases hfile : s.tree.fileAt? path with
    | none =>
      have hpoll := poll_of_fileAt?_eq_none hidle (hpath ▸ hfile)
      refine ⟨by rw [hpoll], .idle ?_ (named_of_fileAt?_eq_none hfile).symm (by simp)
        fun m hm => absurd (hfile.symm.trans hm) (by simp)⟩
      simp [Scene.look, hpoll, hidle]
    | some m =>
      have hpoll := poll_of_fileAt?_eq_some hidle (hpath ▸ hfile)
      refine ⟨by rw [hpoll, hend]; rfl, .reading m _ ?_ hfile (Nat.le_refl _) ?_
        (not_isEmptied_look (Nat.le_of_eq (hu.emptied.trans hu.looks.symm))) (by simp)⟩
      · simp [Scene.look, hpoll]
      · simp [Scene.look]
  exact {
    looked := Nat.succ_pos _
    owed := hu.owed
    output := by
      rw [output_look, hu.output, hread.1]
      rfl
    sent_lt := by simp
    rest_le := by simp
    emptied_le := Nat.le_succ_of_le (Nat.le_of_eq (hu.emptied.trans hu.looks.symm))
    file_mem := hu.file_mem
    tailed_mem := fun tailed htailed => hu.file_mem _ (hpath ▸ fileAt?_of_poll htailed)
    follows := poll_path.trans hpath
    fromEnd := poll_fromEnd fun h => absurd hidle h
    stands := hread.2 }

/-- **The account remains in order whatever happens to the files.** -/
theorem Kept.change (hk : Kept path s sent rest) (hc : Change IsRead path s s') :
    ∃ rest', Kept path s' sent rest' := by
  cases hc with
  | appended t node octets hfile hfile' hcontent hsame =>
    have hstands := hk.stands.append hk.tailed_mem hfile hfile' hcontent hsame
    rw [owe_of_pos (s := s.withTree t) hk.looked]
    refine ⟨rest ++ octets.map fun octet => (s.looks, octet), { hk with
      owed := ?_
      rest_le := fun x hx => ?_
      file_mem := fun n hn => hk.file_mem n (hfile.trans (hfile'.symm.trans hn))
      stands := hstands.of_owed }⟩
    · rw [← List.append_assoc, ← hk.owed]
      rfl
    · exact (List.mem_append.mp hx).elim (hk.rest_le x)
        fun hx => Nat.le_of_eq (stamp_of_mem hx)
  | emptied t node hfile hfile' hcontent hsame hopen hlast =>
    obtain ⟨hstamps, hstands⟩ := hk.stands.empty hk.looked hfile hfile' hcontent
      (hopen hk.looked) hlast
    refine ⟨[], { hk with
      owed := ?_
      rest_le := by simp
      emptied_le := Nat.le_refl _
      file_mem := fun n hn => hk.file_mem n (hfile.trans (hfile'.symm.trans hn))
      stands := hstands }⟩
    have hsent : sent.filter (fun x => x.1 < s.looks) = sent :=
      List.filter_eq_self.mpr fun x hx => decide_eq_true (hk.sent_lt x hx)
    have hrest : rest.filter (fun x => x.1 < s.looks) = [] :=
      List.filter_eq_nil_iff.mpr fun x hx => by simp [hstamps x hx]
    change s.owed.filter (fun x => x.1 < s.looks) = _
    rw [hk.owed, List.filter_append, hsent, hrest]
  | left t node hfile hleave hfile' hsame =>
    have hread : ∀ m, s.tree.fileAt? path = some m → IsRead s m := fun m hm => by
      obtain rfl : node = m := Option.some.inj (hfile.symm.trans hm)
      exact hleave
    exact ⟨rest, { hk with
      file_mem := fun n hn => absurd (hfile'.symm.trans hn) (by simp)
      stands := hk.stands.left hread hk.tailed_mem hfile' hsame }⟩
  | appeared t node hleave hfile hfresh hsame =>
    have hstands := hk.stands.appear hk.looked hleave hk.tailed_mem hfile hfresh hsame
    rw [owe_of_pos (s := (s.withTree t).welcome node) hk.looked]
    refine ⟨rest ++ (t.contentOf node).map fun octet => (s.looks, octet), { hk with
      owed := ?_
      rest_le := fun x hx => ?_
      file_mem := fun n hn => ?_
      tailed_mem := fun tailed htailed => List.mem_cons_of_mem _ (hk.tailed_mem tailed htailed)
      stands := hstands.of_owed }⟩
    · rw [← List.append_assoc, ← hk.owed]
      rfl
    · exact (List.mem_append.mp hx).elim (hk.rest_le x)
        fun hx => Nat.le_of_eq (stamp_of_mem hx)
    · obtain rfl : node = n := Option.some.inj (hfile.symm.trans hn)
      exact List.mem_cons_self
  | elsewhere t hfile hsame =>
    exact ⟨rest, { hk with
      file_mem := fun n hn => hk.file_mem n (hfile.symm.trans hn)
      stands := hk.stands.elsewhere hk.file_mem hk.tailed_mem hfile hsame }⟩

/-- **A look keeps the account in order.** -/
theorem Kept.look (hk : Kept path s sent rest)
    (hshort : s.IsEmptied → ∃ tailed, s.follower.tailed = some tailed ∧
      (s.tree.contentOf tailed.node).length < tailed.offset) :
    ∃ sent' rest', Kept path s.look sent' rest' := by
  obtain ⟨first, second, rfl, hread, hstands⟩ :=
    hk.stands.look hk.follows hk.fromEnd hk.emptied_le hshort
  exact ⟨sent ++ first, second, {
    looked := Nat.succ_pos _
    owed := hk.owed.trans (List.append_assoc _ _ _).symm
    output := by
      rw [output_look, hread, hk.output, List.map_append]
    sent_lt := fun x hx => (List.mem_append.mp hx).elim
      (fun hx => Nat.lt_succ_of_lt (hk.sent_lt x hx))
      (fun hx => Nat.lt_succ_of_le (hk.rest_le x (List.mem_append_left _ hx)))
    rest_le := fun x hx => Nat.le_succ_of_le (hk.rest_le x (List.mem_append_right _ hx))
    emptied_le := Nat.le_succ_of_le hk.emptied_le
    file_mem := hk.file_mem
    tailed_mem := fun tailed htailed => hk.file_mem _ (hk.follows ▸ fileAt?_of_poll htailed)
    follows := poll_path.trans hk.follows
    fromEnd := poll_fromEnd fun _ => hk.fromEnd
    stands := hstands }⟩

theorem Stands.recent (h : Stands path s rest) : ∀ x ∈ rest, s.looks ≤ x.1 + 1 := by
  cases h with
  | idle hidle hrest hrecent hisnew => exact hrecent
  | reading n offset htail hn hoffset hrest hemptied hstamps =>
    intro x hx
    rcases hstamps x hx with h | ⟨h, -⟩ <;> omega
  | rewinding n offset htail hn hemptied hrest hstamps =>
    exact fun x hx => Nat.le_succ_of_le (Nat.le_of_eq (hstamps x hx).symm)
  | leaving n offset first second htail hn hsplit hfirst hsecond hrecent hstamps hisnew =>
    subst hsplit
    exact fun x hx => (List.mem_append.mp hx).elim (hrecent x)
      fun hx => Nat.le_succ_of_le (Nat.le_of_eq (hstamps x hx).symm)

/-- Until the first look nothing is owed, and after it the account is in order. -/
theorem unlooked_or_kept (h : Comes IsRead path t s) :
    Unlooked path s ∨ ∃ sent rest, Kept path s sent rest := by
  induction h with
  | start => exact .inl (unlooked_start path t)
  | changed _ hc ih =>
    rcases ih with hu | ⟨sent, rest, hk⟩
    · exact .inl (hu.change hc)
    · exact .inr ⟨sent, hk.change hc⟩
  | looked _ hshort ih =>
    rcases ih with hu | ⟨sent, rest, hk⟩
    · exact .inr ⟨[], [], hu.look⟩
    · exact .inr (hk.look hshort)

/-- **A follower reads every octet once.** Whatever happens to the files, as long as a file at the
path is only added to, emptied, or loses its name for good, a new one stays for two looks, and one
that has been emptied stays, and is shorter than what has been read of it, until the next look: the
follower gives out what has been written since its first look, in order and each octet once, but
for what was written to a file and gone with its content before the next look; and it gives out each
octet by the second look after it was written. -/
theorem delivers (h : Comes IsRead path t s) : Delivers s := by
  rcases unlooked_or_kept h with hu | ⟨sent, rest, hk⟩
  · exact ⟨[], [], hu.owed, hu.output, by simp⟩
  · exact ⟨sent, rest, hk.owed, hk.output, hk.stands.recent⟩

/-- A tree with one file, which holds so many octets. -/
def oneFile (path : FilePath) (octets : Bytes) : FileTree where
  names := [(path, .file 0 FileTree.fileMode)]
  contents := [(0, octets)]
  fresh := 1

/-- A file that is added to, emptied, added to again and replaced. -/
theorem delivers_four_octets :
    ∃ s, Comes IsRead ["a"] (oneFile ["a"] [0, 1]) s ∧ Delivers s ∧ s.output = [2, 3, 4, 5] := by
  have h0 : Comes IsRead ["a"] (oneFile ["a"] [0, 1]) _ := .start
  have h1 := h0.looked fun h => absurd h.1 (by decide)
  have h2 := h1.changed (change_of_append [2] rfl rfl)
  have h3 := h2.looked fun h => absurd h.2 (by decide)
  have h4 := h3.changed (change_of_write_nil rfl (fun _ => ⟨3, rfl⟩) (by decide) rfl)
  have h5 := h4.changed (change_of_append [3] rfl rfl)
  have h6 := h5.looked fun _ => ⟨⟨0, 3⟩, rfl, by decide⟩
  have h7 := h6.changed (change_of_append [4] rfl rfl)
  have h8 := h7.changed (change_of_replace [5] rfl
    ⟨fun h => absurd h (by decide), fun h => absurd h.2 (by decide)⟩ (by decide) rfl)
  have h9 := h8.looked fun h => absurd h.2 (by decide)
  have h10 := h9.looked fun h => absurd h.2 (by decide)
  exact ⟨_, h10, delivers h10, rfl⟩

/-- **It is not enough that a new file stays for two looks**: what is written to a file after it has
been emptied is lost when the file leaves before the next look. -/
theorem not_delivers_of_hasStayed :
    ¬ ∀ path t s, Comes HasStayed path t s → Delivers s := by
  intro h
  have h0 : Comes HasStayed ["a"] (oneFile ["a"] [0, 1]) _ := .start
  have h1 := h0.looked fun h => absurd h.1 (by decide)
  have h2 := h1.changed (change_of_write_nil rfl (fun _ => ⟨2, rfl⟩) (by decide) rfl)
  have h3 := h2.changed (change_of_append [2] rfl rfl)
  have h4 := h3.changed (change_of_remove rfl (fun h => absurd h (by decide)) rfl)
  have h5 := h4.looked fun _ => ⟨⟨0, 2⟩, rfl, by decide⟩
  have h6 := h5.looked fun h => absurd h.2 (by decide)
  -- two looks later the octet has not been given out
  obtain ⟨sent, rest, howed, houtput, hrecent⟩ := h _ _ _ h6
  have hsent : sent = [] := List.map_eq_nil_iff.mp houtput.symm
  rw [hsent, List.nil_append] at howed
  exact absurd (hrecent (1, 2) (howed ▸ List.mem_singleton_self _)) (by decide)

end Runs

end Following

end LogWatch
