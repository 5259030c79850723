import MateScreensaver.Lib.Descent
import MateScreensaver.AuthMessage

/-!
The search for images below a directory (gste-slideshow.c). The entries of a directory denote
other files and directories, whatever symbolic links stand between; nothing remembers
which directories have been visited.
-/

namespace MateScreensaver
open Descent Relation

/- A name of an entry. -/
abbrev FileName := List Char

/- A file that is no directory, or a directory with its entries; none is one that cannot be
opened. What an entry denotes is given by its place among the nodes; where there is none the
link is broken. -/
inductive FileNode
  | file
  | dir (entries : Option (List (FileName × ℕ)))

def FileNode.entries : FileNode → List (FileName × ℕ)
  | .file => []
  | .dir entries => entries.getD []

/- No two entries of a directory have one name. -/
structure FileSystem where
  nodes : List FileNode
  nodup : ∀ d ∈ nodes, (d.entries.map Prod.fst).Nodup

/- A string in the list, as the names it is built of, with the file it denotes. -/
structure FoundFile where
  path : List FileName
  node : ℕ
deriving DecidableEq

def isHidden (name : FileName) : Bool := name.head? == some '.'

namespace FileSystem
variable (fs : FileSystem)

/- g_file_test (path, G_FILE_TEST_IS_DIR) -/
def isDir (v : ℕ) : Bool :=
  match fs.nodes[v]? with
  | some (.dir _) => true
  | _ => false

def gDirOpen (v : ℕ) : Option (List (FileName × ℕ)) :=
  match fs.nodes[v]? with
  | some (.dir entries) => entries
  | _ => none

/- The loop over the names that g_dir_read_name gives, and what it does for a directory. -/
def readNames (descend : List FileName → ℕ → List FoundFile → Option (List FoundFile)) (base : List FileName) :
    List (FileName × ℕ) → List FoundFile → Option (List FoundFile)
  | [], list => some list
  | (name, v) :: rest, list =>
    if isHidden name then readNames descend base rest list
    else if fs.isDir v then (descend (base ++ [name]) v list).bind (readNames descend base rest)
    else readNames descend base rest (⟨base ++ [name], v⟩ :: list)

/- gste-slideshow.c:502; none when the recursion is deeper than the fuel. -/
def addFilesToList : ℕ → List FileName → ℕ → List FoundFile → Option (List FoundFile)
  | 0, _, _, _ => none
  | fuel + 1, base, v, list =>
    match fs.gDirOpen v with
    | none => some list
    | some entries => fs.readNames (addFilesToList fuel) base entries list

/- gste-slideshow.c:540 -/
def buildFilenameListLocalDir (fuel base : ℕ) : Option (List FoundFile) := fs.addFilesToList fuel [] base []

/-! ### What is meant -/

/- An entry that is not hidden, of a directory that can be opened. -/
def Entry (v : ℕ) (name : FileName) (w : ℕ) : Prop :=
  ∃ entries, fs.gDirOpen v = some entries ∧ (name, w) ∈ entries ∧ isHidden name = false

def Down (v w : ℕ) : Prop := ∃ name, fs.Entry v name w ∧ fs.isDir w = true

/- The names from a directory to a file that is none, through directories. -/
inductive FilePath : ℕ → List FileName → ℕ → Prop
  | entry {v : ℕ} {name : FileName} {w : ℕ} : fs.Entry v name w → fs.isDir w = false → FilePath v [name] w
  | within {v : ℕ} {name : FileName} {u : ℕ} {path : List FileName} {w : ℕ} :
    fs.Entry v name u → fs.isDir u = true → FilePath u path w → FilePath v (name :: path) w

/-- The search ends, and every file that can be reached is in the list once. -/
def FoundOnce (base : ℕ) : Prop :=
  ∃ fuel list, fs.buildFilenameListLocalDir fuel base = some list ∧ (list.map FoundFile.node).Nodup ∧
    ∀ w, w ∈ list.map FoundFile.node ↔ ∃ path, fs.FilePath base path w

/-- The search ends, and every path to a file is in the list once; every file is in it once
if there is one path to each. -/
def FoundByPath (base : ℕ) : Prop :=
  ∃ fuel list, fs.buildFilenameListLocalDir fuel base = some list ∧ (list.map FoundFile.path).Nodup ∧
    (∀ f, f ∈ list ↔ fs.FilePath base f.path f.node) ∧
      ((list.map FoundFile.node).Nodup ↔ ∀ p q w, fs.FilePath base p w → fs.FilePath base q w → p = q)

/-! ### The paths through the entries of a directory -/

/- A path that begins with one of these entries. -/
def PathIn (entries : List (FileName × ℕ)) (path : List FileName) (w : ℕ) : Prop :=
  ∃ name u rest, (name, u) ∈ entries ∧ isHidden name = false ∧ path = name :: rest ∧
    ((fs.isDir u = false ∧ rest = [] ∧ w = u) ∨ (fs.isDir u = true ∧ fs.FilePath u rest w))

/- What the loop adds for these entries. -/
structure Lists (entries : List (FileName × ℕ)) (base : List FileName) (found : List FoundFile) : Prop where
  nodup : (found.map FoundFile.path).Nodup
  mem : ∀ f, f ∈ found ↔ ∃ path, f.path = base ++ path ∧ fs.PathIn entries path f.node

variable {fs} {v : ℕ} {entries rest : List (FileName × ℕ)} {base : List FileName}

theorem filePath_iff (h : fs.gDirOpen v = some entries) (path : List FileName) (w : ℕ) :
    fs.FilePath v path w ↔ fs.PathIn entries path w := by
  constructor
  · rintro (⟨⟨es, hopen, hmem, hhidden⟩, hfile⟩ | ⟨⟨es, hopen, hmem, hhidden⟩, hdir, hpath⟩)
    · cases h.symm.trans hopen
      exact ⟨_, _, [], hmem, hhidden, rfl, .inl ⟨hfile, rfl, rfl⟩⟩
    · cases h.symm.trans hopen
      exact ⟨_, _, _, hmem, hhidden, rfl, .inr ⟨hdir, hpath⟩⟩
  · rintro ⟨name, u, rest, hmem, hhidden, rfl, ⟨hfile, rfl, rfl⟩ | ⟨hdir, hpath⟩⟩
    · exact .entry ⟨entries, h, hmem, hhidden⟩ hfile
    · exact .within ⟨entries, h, hmem, hhidden⟩ hdir hpath

theorem not_filePath (h : fs.gDirOpen v = none) (path : List FileName) (w : ℕ) : ¬ fs.FilePath v path w := by
  rintro (⟨⟨es, hopen, -⟩, -⟩ | ⟨⟨es, hopen, -⟩, -⟩) <;> cases h.symm.trans hopen

theorem pathIn_cons (e : FileName × ℕ) (path : List FileName) (w : ℕ) :
    fs.PathIn (e :: rest) path w ↔ fs.PathIn [e] path w ∨ fs.PathIn rest path w := by
  constructor
  · rintro ⟨name, u, tail, hmem, h⟩
    rcases List.mem_cons.1 hmem with heq | hmem
    · exact .inl ⟨name, u, tail, List.mem_singleton.2 heq, h⟩
    · exact .inr ⟨name, u, tail, hmem, h⟩
  · rintro (⟨name, u, tail, hmem, h⟩ | ⟨name, u, tail, hmem, h⟩)
    · exact ⟨name, u, tail, List.mem_cons.2 (.inl (List.mem_singleton.1 hmem)), h⟩
    · exact ⟨name, u, tail, List.mem_cons_of_mem _ hmem, h⟩

/- What is found for one entry and for those after it, which have other names. -/
theorem Lists.cons {e : FileName × ℕ} {first found : List FoundFile} (hfirst : fs.Lists [e] base first)
    (h : fs.Lists rest base found) (hname : e.1 ∉ rest.map Prod.fst) : fs.Lists (e :: rest) base (found ++ first) where
  nodup := by
    rw [List.map_append]
    refine List.Nodup.append h.nodup hfirst.nodup fun path hpath hpath' => ?_
    obtain ⟨f, hf, rfl⟩ := List.mem_map.1 hpath
    obtain ⟨f', hf', heq⟩ := List.mem_map.1 hpath'
    obtain ⟨p, hp, name, u, tail, hmem, -, rfl, -⟩ := (h.mem f).1 hf
    obtain ⟨p', hp', name', u', tail', hmem', -, rfl, -⟩ := (hfirst.mem f').1 hf'
    rw [hp, hp'] at heq
    have hsame : name' = name := (List.cons.inj (List.append_cancel_left heq)).1
    obtain rfl : (name', u') = e := List.mem_singleton.1 hmem'
    exact hname (List.mem_map.2 ⟨(name, u), hmem, hsame.symm⟩)
  mem := by
    intro f
    rw [List.mem_append, h.mem, hfirst.mem]
    constructor
    · rintro (⟨path, hpath, hin⟩ | ⟨path, hpath, hin⟩)
      · exact ⟨path, hpath, (pathIn_cons e path f.node).2 (.inr hin)⟩
      · exact ⟨path, hpath, (pathIn_cons e path f.node).2 (.inl hin)⟩
    · rintro ⟨path, hpath, hin⟩
      rcases (pathIn_cons e path f.node).1 hin with hin | hin
      · exact .inr ⟨path, hpath, hin⟩
      · exact .inl ⟨path, hpath, hin⟩

theorem lists_nil : fs.Lists [] base [] where
  nodup := List.nodup_nil
  mem f := by
    constructor
    · intro hf
      cases hf
    · rintro ⟨path, -, name, u, tail, hmem, -⟩
      cases hmem

theorem lists_hidden {name : FileName} {u : ℕ} (h : isHidden name = true) : fs.Lists [(name, u)] base [] where
  nodup := List.nodup_nil
  mem f := by
    constructor
    · intro hf
      cases hf
    · rintro ⟨path, -, name', u', tail, hmem, hhidden, -⟩
      cases List.mem_singleton.1 hmem
      rw [h] at hhidden
      cases hhidden

theorem lists_file {name : FileName} {u : ℕ} (h : isHidden name = false) (hfile : fs.isDir u = false) :
    fs.Lists [(name, u)] base [⟨base ++ [name], u⟩] where
  nodup := List.nodup_singleton _
  mem f := by
    constructor
    · intro hf
      cases List.mem_singleton.1 hf
      exact ⟨[name], rfl, name, u, [], List.mem_singleton.2 rfl, h, rfl, .inl ⟨hfile, rfl, rfl⟩⟩
    · rintro ⟨path, hpath, name', u', tail, hmem, -, rfl, ⟨-, rfl, hnode⟩ | ⟨hdir, -⟩⟩
      · cases List.mem_singleton.1 hmem
        obtain ⟨path, node⟩ := f
        cases hpath
        cases hnode
        exact List.mem_singleton.2 rfl
      · cases List.mem_singleton.1 hmem
        rw [hfile] at hdir
        cases hdir

/- What is found below a directory, as what is found for its entry. -/
theorem lists_dir {name : FileName} {u : ℕ} {found : List FoundFile} (h : isHidden name = false) (hdir : fs.isDir u = true)
    (hnodup : (found.map FoundFile.path).Nodup)
    (hmem : ∀ f, f ∈ found ↔ ∃ path, f.path = base ++ [name] ++ path ∧ fs.FilePath u path f.node) :
    fs.Lists [(name, u)] base found where
  nodup := hnodup
  mem f := by
    rw [hmem]
    constructor
    · rintro ⟨path, hpath, hbelow⟩
      exact ⟨name :: path, hpath.trans (List.append_assoc ..), name, u, path, List.mem_singleton.2 rfl, h, rfl, .inr ⟨hdir, hbelow⟩⟩
    · rintro ⟨path, hpath, name', u', tail, hmem', -, rfl, ⟨hfile, -⟩ | ⟨-, hbelow⟩⟩
      · cases List.mem_singleton.1 hmem'
        rw [hdir] at hfile
        cases hfile
      · cases List.mem_singleton.1 hmem'
        exact ⟨tail, hpath.trans (List.append_assoc base [name] tail).symm, hbelow⟩

/-! ### What the search finds -/

/- What a directory's own search adds to the list. -/
def Adds (fs : FileSystem) (descend : List FileName → ℕ → List FoundFile → Option (List FoundFile)) : Prop :=
  ∀ base v list list', descend base v list = some list' →
    ∃ found, list' = found ++ list ∧ (found.map FoundFile.path).Nodup ∧
      ∀ f, f ∈ found ↔ ∃ path, f.path = base ++ path ∧ fs.FilePath v path f.node

variable {descend : List FileName → ℕ → List FoundFile → Option (List FoundFile)} {list list' : List FoundFile}

theorem readNames_lists (hadds : fs.Adds descend) (hnodup : (entries.map Prod.fst).Nodup)
    (h : fs.readNames descend base entries list = some list') :
    ∃ found, list' = found ++ list ∧ fs.Lists entries base found := by
  induction entries generalizing list with
  | nil =>
    cases h
    exact ⟨[], rfl, lists_nil⟩
  | cons e rest ih =>
    obtain ⟨name, u⟩ := e
    obtain ⟨hname, hrest⟩ := List.nodup_cons.1 hnodup
    rw [readNames] at h
    by_cases hhidden : isHidden name = true
    · rw [if_pos hhidden] at h
      obtain ⟨found, rfl, hfound⟩ := ih hrest h
      exact ⟨found ++ [], by rw [List.append_nil], (lists_hidden hhidden).cons hfound hname⟩
    · rw [if_neg hhidden] at h
      rw [Bool.not_eq_true] at hhidden
      cases hdir : fs.isDir u with
      | true =>
        rw [if_pos hdir] at h
        obtain ⟨middle, hdescend, h⟩ := Option.bind_eq_some_iff.1 h
        obtain ⟨first, rfl, hfirst, hmem⟩ := hadds _ _ _ _ hdescend
        obtain ⟨found, rfl, hfound⟩ := ih hrest h
        exact ⟨found ++ first, (List.append_assoc ..).symm, (lists_dir hhidden hdir hfirst hmem).cons hfound hname⟩
      | false =>
        rw [if_neg (by rw [hdir]; decide)] at h
        obtain ⟨found, rfl, hfound⟩ := ih hrest h
        exact ⟨found ++ [⟨base ++ [name], u⟩], by rw [List.append_assoc]; rfl, (lists_file hhidden hdir).cons hfound hname⟩

theorem nodup_entries (h : fs.gDirOpen v = some entries) : (entries.map Prod.fst).Nodup := by
  unfold gDirOpen at h
  split at h
  case h_1 es hnode =>
    have hnodup := fs.nodup _ (List.mem_of_getElem? hnode)
    rw [h] at hnodup
    exact hnodup
  case h_2 => cases h

theorem addFilesToList_adds (fs : FileSystem) (fuel : ℕ) : fs.Adds (fs.addFilesToList fuel) := by
  induction fuel with
  | zero =>
    intro base v list list' h
    cases h
  | succ fuel ih =>
    intro base v list list' h
    rw [addFilesToList] at h
    cases hopen : fs.gDirOpen v with
    | none =>
      rw [hopen] at h
      cases h
      refine ⟨[], rfl, List.nodup_nil, fun f => ⟨(fun hf => by cases hf), ?_⟩⟩
      rintro ⟨path, -, hpath⟩
      exact absurd hpath (not_filePath hopen path f.node)
    | some entries =>
      rw [hopen] at h
      obtain ⟨found, heq, hfound⟩ := readNames_lists ih (nodup_entries hopen) h
      refine ⟨found, heq, hfound.nodup, fun f => ?_⟩
      simp only [hfound.mem, filePath_iff hopen]

/-! ### Whether it ends -/

/- A loop that ends has ended the search of every directory among its entries. -/
theorem readNames_descends (h : fs.readNames descend base entries list = some list') {name : FileName} {u : ℕ}
    (hmem : (name, u) ∈ entries) (hhidden : isHidden name = false) (hdir : fs.isDir u = true) :
    ∃ before after, descend (base ++ [name]) u before = some after := by
  induction entries generalizing list with
  | nil => cases hmem
  | cons e rest ih =>
    rw [readNames] at h
    rcases List.mem_cons.1 hmem with rfl | hmem
    · rw [if_neg (by rw [hhidden]; decide), if_pos hdir] at h
      obtain ⟨after, hdescend, -⟩ := Option.bind_eq_some_iff.1 h
      exact ⟨list, after, hdescend⟩
    · split at h
      · exact ih h hmem
      · split at h
        · obtain ⟨middle, -, h⟩ := Option.bind_eq_some_iff.1 h
          exact ih h hmem
        · exact ih h hmem

theorem ends_of_addFilesToList {fuel : ℕ} (h : fs.addFilesToList fuel base v list = some list') : Ends fs.Down v := by
  induction fuel generalizing base v list list' with
  | zero => cases h
  | succ fuel ih =>
    refine ends_of_next fun w hw => ?_
    obtain ⟨name, ⟨entries, hopen, hmem, hhidden⟩, hdir⟩ := hw
    rw [addFilesToList, hopen] at h
    obtain ⟨before, after, hdescend⟩ := readNames_descends h hmem hhidden hdir
    exact ih hdescend

/- More fuel changes nothing. -/
theorem readNames_mono {more : List FileName → ℕ → List FoundFile → Option (List FoundFile)}
    (hmore : ∀ base v list list', descend base v list = some list' → more base v list = some list')
    (h : fs.readNames descend base entries list = some list') : fs.readNames more base entries list = some list' := by
  induction entries generalizing list with
  | nil => exact h
  | cons e rest ih =>
    rw [readNames] at h ⊢
    split
    case isTrue hhidden =>
      rw [if_pos hhidden] at h
      exact ih h
    case isFalse hhidden =>
      rw [if_neg hhidden] at h
      split
      case isTrue hdir =>
        rw [if_pos hdir] at h
        obtain ⟨middle, hdescend, h⟩ := Option.bind_eq_some_iff.1 h
        exact Option.bind_eq_some_iff.2 ⟨middle, hmore _ _ _ _ hdescend, ih h⟩
      case isFalse hdir =>
        rw [if_neg hdir] at h
        exact ih h

theorem addFilesToList_mono {fuel more : ℕ} (hle : fuel ≤ more) (h : fs.addFilesToList fuel base v list = some list') :
    fs.addFilesToList more base v list = some list' := by
  induction more generalizing fuel base v list list' with
  | zero =>
    obtain rfl := Nat.le_zero.1 hle
    exact h
  | succ more ih =>
    cases fuel with
    | zero => cases h
    | succ fuel =>
      rw [addFilesToList] at h ⊢
      cases hopen : fs.gDirOpen v with
      | none =>
        rw [hopen] at h
        exact h
      | some entries =>
        rw [hopen] at h
        exact readNames_mono (fun _ _ _ _ hdescend => ih (Nat.le_of_succ_le_succ hle) hdescend) h

/- Some fuel is enough for all directories among these entries. -/
theorem readNames_ends (h : ∀ name u, (name, u) ∈ entries → isHidden name = false → fs.isDir u = true →
      ∃ fuel, ∀ base list, ∃ list', fs.addFilesToList fuel base u list = some list') :
    ∃ fuel, ∀ base list, ∃ list', fs.readNames (fs.addFilesToList fuel) base entries list = some list' := by
  induction entries with
  | nil => exact ⟨0, fun _ list => ⟨list, rfl⟩⟩
  | cons e rest ih =>
    obtain ⟨name, u⟩ := e
    obtain ⟨fuel, hrest⟩ := ih fun name u hmem => h name u (List.mem_cons_of_mem _ hmem)
    cases hhidden : isHidden name with
    | true =>
      refine ⟨fuel, fun base list => ?_⟩
      rw [readNames, if_pos hhidden]
      exact hrest base list
    | false =>
      have hshow : ¬ isHidden name = true := by rw [hhidden]; decide
      cases hdir : fs.isDir u with
      | false =>
        refine ⟨fuel, fun base list => ?_⟩
        rw [readNames, if_neg hshow, if_neg (by rw [hdir]; decide)]
        exact hrest base _
      | true =>
        obtain ⟨fuelDir, hfirst⟩ := h name u List.mem_cons_self hhidden hdir
        refine ⟨max fuel fuelDir, fun base list => ?_⟩
        obtain ⟨middle, hmiddle⟩ := hfirst (base ++ [name]) list
        obtain ⟨list', hlist'⟩ := hrest base middle
        rw [readNames, if_neg hshow, if_pos hdir, addFilesToList_mono (le_max_right _ _) hmiddle, Option.bind_some]
        exact ⟨list', readNames_mono (fun _ _ _ _ => addFilesToList_mono (le_max_left _ _)) hlist'⟩

/- By induction on the walks down from the directory. -/
theorem addFilesToList_ends (h : Ends fs.Down v) :
    ∃ fuel, ∀ base list, ∃ list', fs.addFilesToList fuel base v list = some list' := by
  induction h with
  | intro v _ ih =>
    cases hopen : fs.gDirOpen v with
    | none => exact ⟨1, fun base list => ⟨list, by rw [addFilesToList, hopen]⟩⟩
    | some entries =>
      have hbelow : ∀ name u, (name, u) ∈ entries → isHidden name = false → fs.isDir u = true →
          ∃ fuel, ∀ base list, ∃ list', fs.addFilesToList fuel base u list = some list' :=
        fun name u hmem hhidden hdir => ih u ⟨name, ⟨entries, hopen, hmem, hhidden⟩, hdir⟩
      obtain ⟨fuel, hends⟩ := readNames_ends hbelow
      refine ⟨fuel + 1, fun base list => ?_⟩
      rw [addFilesToList, hopen]
      exact hends base list

theorem down_mem_range (v w : ℕ) (h : fs.Down v w) : w ∈ Finset.range fs.nodes.length := by
  obtain ⟨name, -, hdir⟩ := h
  rw [Finset.mem_range]
  by_contra hle
  rw [isDir, List.getElem?_eq_none (Nat.le_of_not_lt hle)] at hdir
  cases hdir

/- The search ends exactly when no directory is found again below itself. -/
theorem search_ends_iff (fs : FileSystem) (base : ℕ) :
    (∃ fuel list, fs.buildFilenameListLocalDir fuel base = some list) ↔ NoCycle fs.Down base := by
  constructor
  · rintro ⟨fuel, list, h⟩
    exact (ends_of_addFilesToList h).noCycle
  · intro h
    obtain ⟨fuel, hends⟩ := addFilesToList_ends (h.ends down_mem_range)
    obtain ⟨list, hlist⟩ := hends [] []
    exact ⟨fuel, list, hlist⟩

/- Whenever it ends, what is found are the paths to files. -/
theorem search_finds {fuel b : ℕ} (h : fs.buildFilenameListLocalDir fuel b = some list) :
    (list.map FoundFile.path).Nodup ∧ ∀ f, f ∈ list ↔ fs.FilePath b f.path f.node := by
  obtain ⟨found, heq, hnodup, hmem⟩ := addFilesToList_adds fs fuel [] b [] list h
  rw [List.append_nil] at heq
  rw [heq]
  refine ⟨hnodup, fun f => (hmem f).trans ⟨?_, fun hpath => ⟨f.path, rfl, hpath⟩⟩⟩
  rintro ⟨path, hpath, h⟩
  rwa [hpath]

/- A file is in the list twice exactly when there are two paths to it. -/
theorem nodup_nodes_iff {b : ℕ} (hnodup : (list.map FoundFile.path).Nodup) (hmem : ∀ f, f ∈ list ↔ fs.FilePath b f.path f.node) :
    (list.map FoundFile.node).Nodup ↔ ∀ p q w, fs.FilePath b p w → fs.FilePath b q w → p = q := by
  rw [List.nodup_map_iff_inj_on hnodup.of_map]
  constructor
  · intro hinj p q w hp hq
    exact congrArg FoundFile.path (hinj ⟨p, w⟩ ((hmem _).2 hp) ⟨q, w⟩ ((hmem _).2 hq) rfl)
  · rintro hone ⟨p, w⟩ hf ⟨q, w'⟩ hf' heq
    obtain rfl : w = w' := heq
    rw [hone p q w ((hmem _).1 hf) ((hmem _).1 hf')]

/- Every file is found once exactly when no directory is below itself and no two paths lead
to one file. -/
theorem foundOnce_iff (fs : FileSystem) (base : ℕ) :
    fs.FoundOnce base ↔ NoCycle fs.Down base ∧ ∀ p q w, fs.FilePath base p w → fs.FilePath base q w → p = q := by
  constructor
  · rintro ⟨fuel, list, h, hnodup, -⟩
    obtain ⟨hpaths, hmem⟩ := search_finds h
    exact ⟨(search_ends_iff fs base).1 ⟨fuel, list, h⟩, (nodup_nodes_iff hpaths hmem).1 hnodup⟩
  · rintro ⟨hcycle, hone⟩
    obtain ⟨fuel, list, h⟩ := (search_ends_iff fs base).2 hcycle
    obtain ⟨hpaths, hmem⟩ := search_finds h
    refine ⟨fuel, list, h, (nodup_nodes_iff hpaths hmem).2 hone, fun w => ⟨?_, ?_⟩⟩
    · intro hw
      obtain ⟨f, hf, rfl⟩ := List.mem_map.1 hw
      exact ⟨f.path, (hmem f).1 hf⟩
    · rintro ⟨path, hpath⟩
      exact List.mem_map.2 ⟨⟨path, w⟩, (hmem _).2 hpath, rfl⟩

/- A directory with a link to itself, and one with two links to another. -/
def loopNodes : List FileNode := [.dir (some [("loop".toList, 0)])]

def sharedNodes : List FileNode :=
  [.dir (some [("one".toList, 1), ("two".toList, 1)]), .dir (some [("image".toList, 2), (".hidden".toList, 2)]), .file]

theorem loop_nodup : ∀ d ∈ loopNodes, (d.entries.map Prod.fst).Nodup := by decide

theorem shared_nodup : ∀ d ∈ sharedNodes, (d.entries.map Prod.fst).Nodup := by decide

def loopSystem : FileSystem := ⟨loopNodes, loop_nodup⟩

def sharedSystem : FileSystem := ⟨sharedNodes, shared_nodup⟩

theorem not_foundOnce : ¬ loopSystem.FoundOnce 0 ∧ ¬ sharedSystem.FoundOnce 0 := by
  have hloop : loopSystem.Down 0 0 := ⟨"loop".toList, ⟨_, rfl, List.mem_cons_self, rfl⟩, rfl⟩
  have himage : sharedSystem.FilePath 1 ["image".toList] 2 := .entry ⟨_, rfl, List.mem_cons_self, rfl⟩ rfl
  have hone : sharedSystem.FilePath 0 ["one".toList, "image".toList] 2 :=
    .within ⟨_, rfl, List.mem_cons_self, rfl⟩ rfl himage
  have htwo : sharedSystem.FilePath 0 ["two".toList, "image".toList] 2 :=
    .within ⟨_, rfl, List.mem_cons_of_mem _ List.mem_cons_self, rfl⟩ rfl himage
  constructor
  · intro h
    exact ((foundOnce_iff loopSystem 0).1 h).1 0 ReflTransGen.refl (TransGen.single hloop)
  · intro h
    exact absurd (((foundOnce_iff sharedSystem 0).1 h).2 _ _ _ hone htwo) (by decide)

/-- Without a directory below itself the search ends with every path to a file in the list,
once. -/
theorem search_foundByPath (fs : FileSystem) (base : ℕ) (h : NoCycle fs.Down base) : fs.FoundByPath base := by
  obtain ⟨fuel, list, hsearch⟩ := (search_ends_iff fs base).2 h
  obtain ⟨hpaths, hmem⟩ := search_finds hsearch
  exact ⟨fuel, list, hsearch, hpaths, hmem, nodup_nodes_iff hpaths hmem⟩

theorem shared_down_lt (v w : ℕ) (h : sharedSystem.Down v w) : v < w := by
  obtain ⟨name, ⟨entries, hopen, hmem, -⟩, -⟩ := h
  cases v with
  | zero =>
    cases hopen
    simp only [List.mem_cons, Prod.mk.injEq, List.not_mem_nil, or_false] at hmem
    omega
  | succ v =>
    cases v with
    | zero =>
      cases hopen
      simp only [List.mem_cons, Prod.mk.injEq, List.not_mem_nil, or_false] at hmem
      omega
    | succ v => cases v <;> cases hopen

theorem search_foundByPath_shared : sharedSystem.FoundByPath 0 :=
  search_foundByPath sharedSystem 0 (noCycle_of_lt shared_down_lt)

end FileSystem
end MateScreensaver
