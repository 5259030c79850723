import Mathlib.Data.List.Perm.Basic
import MateScreensaver.Lib.Runs
import MateScreensaver.AuthMessage

/-!
How the slideshow chooses its files (gste-slideshow.c): from a list of names that is built
when it is empty, at random or the first one in order, and each name once.
-/

namespace MateScreensaver
open Runs History
namespace Slideshow

/- Bytes are compared as unsigned. -/
def strcmp (a b : Bytes) : Ordering := compare a b

/- Any number from low to high, without high. -/
def gRandomIntRange (random low high : ℕ) : ℕ := low + random % (high - low)

/- A link of filename_list and the string in it, which are allocated together. -/
structure Link where
  id : ℕ
  filename : Bytes

/- The part of GSTESlideshowPrivate that has the list. -/
structure LocalDir where
  sortImages : Bool
  filenameList : List Link := []
  allocated : ℕ := 0
  readNull : Bool := false

/- What a call finds in the directory, should it look there, the random number, and whether
the file is an image. -/
structure Call where
  files : List Bytes
  random : ℕ
  loads : Bool

/- What is to be seen of a call: what it found, if it looked, the link whose file it opened, the
picture, known by the name of its file, and the strings and links that it freed. -/
structure Seen where
  found : Option (List Link) := none
  chosen : Option Link := none
  pixbuf : Option Bytes := none
  freedNames : List ℕ := []
  freedLinks : List ℕ := []

namespace LocalDir

/- The list that is built when there is none. -/
def rebuild (s : LocalDir) (files : List Bytes) : LocalDir × Seen :=
  if s.filenameList.isEmpty then
    let list := files.mapIdx fun i name => ⟨s.allocated + i, name⟩
    ({ s with filenameList := list, allocated := s.allocated + files.length }, { found := some list })
  else (s, {})

/- g_slist_sort is stable. -/
def sort (s : LocalDir) : LocalDir :=
  if s.sortImages then
    { s with filenameList := s.filenameList.mergeSort fun a b => (strcmp a.filename b.filename).isLE }
  else s

/- Where l is. -/
def position (s : LocalDir) (random : ℕ) : ℕ :=
  if !s.sortImages then gRandomIntRange random 0 s.filenameList.length else 0

/- The file at l is loaded, its name freed and l taken from the list. -/
def takeFile (s : LocalDir) (seen : Seen) (loads : Bool) (l : ℕ) : LocalDir × Seen :=
  match s.filenameList[l]? with
  | none => ({ s with readNull := true }, seen)
  | some link =>
    ({ s with filenameList := s.filenameList.eraseIdx l },
      { seen with
        chosen := some link
        pixbuf := if loads then some link.filename else none
        freedNames := [link.id]
        freedLinks := [link.id] })

/- gste-slideshow.c:558 -/
def getPixbufFromLocalDir (s : LocalDir) (c : Call) : LocalDir × Seen :=
  let (s, seen) := s.rebuild c.files
  if s.filenameList.isEmpty then (s, seen)
  else
    let s := s.sort
    s.takeFile seen c.loads (s.position c.random)

def calls (sortImages : Bool) : System LocalDir Call where
  init s := s = { sortImages := sortImages }
  next s c := some (s.getPixbufFromLocalDir c).1

/- The calls with all that was to be seen of them. -/
def watched (sortImages : Bool) : System (LocalDir × List (Call × Seen)) Call :=
  (calls sortImages).recorded fun s c => [(c, (s.getPixbufFromLocalDir c).2)]

end LocalDir

/-! ### What was to be seen -/

/- The files that were found last and those that were chosen since. -/
structure Round where
  found : List Link := []
  chosen : List Link := []

def Round.after (r : Round) (o : Call × Seen) : Round :=
  match o.2.found with
  | some list => ⟨list, o.2.chosen.toList⟩
  | none => ⟨r.found, r.chosen ++ o.2.chosen.toList⟩

def lastRound (log : List (Call × Seen)) : Round := log.foldl Round.after {}

/- What was ever allocated. -/
def foundIds (log : List (Call × Seen)) : List ℕ := log.flatMap fun o => (o.2.found.getD []).map Link.id

/-- A call looks for files when all that were found last have been chosen, and not before. It
chooses one unless there are none, and frees what it chooses. -/
structure FairCall (before : List (Call × Seen)) (o : Call × Seen) : Prop where
  looks : o.2.found ≠ none ↔ (lastRound before).chosen.Perm (lastRound before).found
  finds : ∀ list, o.2.found = some list → list.map Link.filename = o.1.files
  chooses : o.2.chosen = none ↔ o.2.found = some []
  freesName : o.2.freedNames = o.2.chosen.toList.map Link.id
  freesLink : o.2.freedLinks = o.2.chosen.toList.map Link.id

/-- All calls are fair; between them each file that was found last has been chosen once or is in
the list still, and they are chosen in order if they are sorted. Every string and every link
that was ever allocated is freed once or in the list. -/
structure Fair (sortImages : Bool) (s : LocalDir) (log : List (Call × Seen)) : Prop where
  calls : Upheld FairCall log
  once : ((lastRound log).chosen ++ s.filenameList).Perm (lastRound log).found
  ascending : sortImages = true →
    (lastRound log).chosen.Pairwise fun a b => (strcmp a.filename b.filename).isLE = true
  distinct : (foundIds log).Nodup
  names : (log.flatMap (fun o => o.2.freedNames) ++ s.filenameList.map Link.id).Perm (foundIds log)
  links : (log.flatMap (fun o => o.2.freedLinks) ++ s.filenameList.map Link.id).Perm (foundIds log)
  noNull : s.readNull = false

namespace LocalDir

variable {s : LocalDir} {log : List (Call × Seen)} {sortImages : Bool}

theorem strcmp_trans (a b c : Bytes) (hab : (strcmp a b).isLE = true) (hbc : (strcmp b c).isLE = true) :
    (strcmp a c).isLE = true :=
  Std.TransOrd.isLE_trans hab hbc

theorem strcmp_total (a b : Bytes) : ((strcmp a b).isLE || (strcmp b a).isLE) = true := by
  rw [strcmp, Std.OrientedOrd.eq_swap (a := a)]
  unfold strcmp
  cases compare b a <;> rfl

theorem map_id_mapIdx (first : ℕ) (files : List Bytes) :
    (files.mapIdx fun i name => Link.mk (first + i) name).map Link.id = (List.range files.length).map (first + ·) :=
  List.ext_getElem (by simp) fun i _ _ => by simp

theorem pairwise_sort (hsort : s.sort.sortImages = true) :
    s.sort.filenameList.Pairwise fun a b => (strcmp a.filename b.filename).isLE = true := by
  have hflag : s.sort.sortImages = s.sortImages := by
    unfold LocalDir.sort
    split <;> rfl
  rw [LocalDir.sort, if_pos (hflag ▸ hsort)]
  exact List.pairwise_mergeSort (fun a b c => strcmp_trans a.filename b.filename c.filename)
    (fun a b => strcmp_total a.filename b.filename) s.filenameList

theorem position_lt (hne : s.filenameList ≠ []) (random : ℕ) : s.position random < s.filenameList.length := by
  have hpos := List.length_pos_iff.2 hne
  unfold position
  split
  · rw [gRandomIntRange, Nat.zero_add, Nat.sub_zero]
    exact Nat.mod_lt _ hpos
  · exact hpos

theorem position_sorted (hsort : s.sortImages = true) (random : ℕ) : s.position random = 0 := by
  rw [position, hsort]
  rfl

/- In a list in order the first comes before the others. -/
theorem head_before {list : List Link} {b : Link} (h : list.Pairwise fun a b => (strcmp a.filename b.filename).isLE = true)
    (hl : 0 < list.length) (hb : b ∈ list.eraseIdx 0) : (strcmp list[0].filename b.filename).isLE = true := by
  cases list with
  | nil => exact absurd hl (Nat.lt_irrefl 0)
  | cons head rest => exact (List.pairwise_cons.1 h).1 b hb

/- One link is taken from an order of the list, which is that of the names when they are
sorted; or there is none. -/
inductive Takes (s : LocalDir) (found : Option (List Link)) (list : List Link) (n : ℕ) : LocalDir × Seen → Prop
  | nothing : list = [] → Takes s found list n ({ s with filenameList := [], allocated := n }, { found := found })
  | link {order : List Link} {l : ℕ} (hl : l < order.length) (pixbuf : Option Bytes) : order.Perm list →
      (s.sortImages = true → l = 0 ∧ order.Pairwise fun a b => (strcmp a.filename b.filename).isLE = true) →
      Takes s found list n ({ s with filenameList := order.eraseIdx l, allocated := n },
        ⟨found, some order[l], pixbuf, [order[l].id], [order[l].id]⟩)

theorem sort_eq (s : LocalDir) : ∃ order, s.sort = { s with filenameList := order } ∧ order.Perm s.filenameList := by
  unfold LocalDir.sort
  split
  · exact ⟨_, rfl, List.mergeSort_perm _ _⟩
  · exact ⟨_, rfl, List.Perm.refl _⟩

theorem takes_sort {found : Option (List Link)} {list : List Link} (hne : list ≠ []) (n : ℕ) (loads : Bool)
    (random : ℕ) :
    let t : LocalDir := { s with filenameList := list, allocated := n }
    Takes s found list n (t.sort.takeFile { found := found } loads (t.sort.position random)) := by
  intro t
  obtain ⟨order, hsort, hperm⟩ := sort_eq t
  have hsorted := @pairwise_sort t
  rw [hsort] at hsorted ⊢
  have horder : order ≠ [] := fun hnil => hne (by
    rw [hnil] at hperm
    exact hperm.nil_eq.symm)
  have hl : ({ t with filenameList := order } : LocalDir).position random < order.length :=
    position_lt (s := { t with filenameList := order }) horder random
  rw [takeFile, List.getElem?_eq_getElem hl]
  exact .link hl _ hperm fun hflag =>
    ⟨position_sorted (s := { t with filenameList := order }) hflag random, hsorted hflag⟩

/-- What a call does: it looks for files when the list is empty, and takes a link. -/
inductive Does (s : LocalDir) (c : Call) (y : LocalDir × Seen) : Prop
  | looks {list : List Link} : s.filenameList = [] →
      list = (c.files.mapIdx fun i name => ⟨s.allocated + i, name⟩) →
      Takes s (some list) list (s.allocated + c.files.length) y → Does s c y
  | goesOn : s.filenameList ≠ [] → Takes s none s.filenameList s.allocated y → Does s c y

theorem call_does (s : LocalDir) (c : Call) : Does s c (s.getPixbufFromLocalDir c) := by
  unfold LocalDir.getPixbufFromLocalDir rebuild
  by_cases hempty : s.filenameList = []
  · apply Does.looks hempty rfl
    simp only [hempty, List.isEmpty_nil, if_true]
    split
    · next hnil =>
      have hlist := List.isEmpty_iff.1 hnil
      rw [hlist]
      exact .nothing rfl
    · next hsome =>
      have hfound : (c.files.mapIdx fun i name => Link.mk (s.allocated + i) name) ≠ [] := fun hnil =>
        hsome (List.isEmpty_iff.2 hnil)
      exact takes_sort hfound _ c.loads c.random
  · apply Does.goesOn hempty
    have hmore : s.filenameList.isEmpty = false := List.isEmpty_eq_false_iff.2 hempty
    simp only [hmore, Bool.false_eq_true, if_false]
    exact takes_sort hempty s.allocated c.loads c.random

/-! ### Fairness -/

/- What is chosen comes before what is left, and the links are numbered as they are allocated. -/
structure Choosing (sortImages : Bool) (s : LocalDir) (log : List (Call × Seen)) : Prop extends
    Fair sortImages s log where
  sorts : s.sortImages = sortImages
  numbers : foundIds log = List.range s.allocated
  before : sortImages = true → ∀ a ∈ (lastRound log).chosen, ∀ b ∈ s.filenameList,
    (strcmp a.filename b.filename).isLE = true

/- The round that goes on when the list is the given one, before a link is taken from it. -/
structure Open (sortImages : Bool) (r : Round) (list : List Link) : Prop where
  once : (r.chosen ++ list).Perm r.found
  ascending : sortImages = true → r.chosen.Pairwise fun a b => (strcmp a.filename b.filename).isLE = true
  before : sortImages = true → ∀ a ∈ r.chosen, ∀ b ∈ list, (strcmp a.filename b.filename).isLE = true

theorem Open.take {r : Round} {list order : List Link} {l : ℕ} (h : Open sortImages r list) (hl : l < order.length)
    (hperm : order.Perm list)
    (hsorted : sortImages = true → l = 0 ∧ order.Pairwise fun a b => (strcmp a.filename b.filename).isLE = true) :
    Open sortImages ⟨r.found, r.chosen ++ [order[l]]⟩ (order.eraseIdx l) := by
  constructor
  · have herase := (List.getElem_cons_eraseIdx_perm hl).trans hperm
    rw [List.append_assoc]
    exact (herase.append_left _).trans h.once
  · intro hsort
    refine List.pairwise_append.2 ⟨h.ascending hsort, List.pairwise_singleton _ _, fun a ha b hb => ?_⟩
    rw [List.mem_singleton.1 hb]
    exact h.before hsort a ha _ (hperm.mem_iff.1 (List.getElem_mem hl))
  · intro hsort a ha b hb
    obtain ⟨rfl, hpairwise⟩ := hsorted hsort
    rcases List.mem_append.1 ha with ha | ha
    · exact h.before hsort a ha b (hperm.mem_iff.1 (List.mem_of_mem_eraseIdx hb))
    · rw [List.mem_singleton.1 ha]
      exact head_before hpairwise hl hb

theorem lastRound_append (log : List (Call × Seen)) (o : Call × Seen) :
    lastRound (log ++ [o]) = (lastRound log).after o := by
  rw [lastRound, List.foldl_append]
  rfl

theorem foundIds_append (log : List (Call × Seen)) (o : Call × Seen) :
    foundIds (log ++ [o]) = foundIds log ++ (o.2.found.getD []).map Link.id := by
  simp [foundIds]

theorem choosing_start (sortImages : Bool) : Choosing sortImages { sortImages := sortImages } [] where
  calls := upheld_nil
  once := List.Perm.refl _
  ascending _ := List.Pairwise.nil
  distinct := List.nodup_nil
  names := List.Perm.refl _
  links := List.Perm.refl _
  noNull := rfl
  sorts := rfl
  numbers := rfl
  before _ a ha := by cases ha

/- A link goes from the list to what is freed. -/
theorem perm_take {freed : List ℕ} {ids : List ℕ} {list order : List Link} {l : ℕ} (hl : l < order.length)
    (hperm : order.Perm list) (h : (freed ++ list.map Link.id).Perm ids) :
    (freed ++ [order[l].id] ++ (order.eraseIdx l).map Link.id).Perm ids := by
  have herase : ([order[l].id] ++ (order.eraseIdx l).map Link.id).Perm (list.map Link.id) :=
    ((List.getElem_cons_eraseIdx_perm hl).trans hperm).map Link.id
  rw [List.append_assoc]
  exact (herase.append_left _).trans h

/- The round as a call goes on with it. -/
def looked (log : List (Call × Seen)) : Option (List Link) → Round
  | some list => ⟨list, []⟩
  | none => lastRound log

theorem lastRound_looked (log : List (Call × Seen)) (c : Call) (seen : Seen) : lastRound (log ++ [(c, seen)]) =
    ⟨(looked log seen.found).found, (looked log seen.found).chosen ++ seen.chosen.toList⟩ := by
  rw [lastRound_append, Round.after]
  cases seen.found with
  | none => rfl
  | some list => rfl

/- What is known of the list from which a link is to be taken. -/
structure Offered (sortImages : Bool) (s : LocalDir) (log : List (Call × Seen)) (c : Call) (found : Option (List Link))
    (list : List Link) (n : ℕ) : Prop where
  fair : found ≠ none ↔ (lastRound log).chosen.Perm (lastRound log).found
  finds : ∀ list, found = some list → list.map Link.filename = c.files
  none : found = some [] ↔ list = []
  opened : Open sortImages (looked log found) list
  numbers : foundIds log ++ (found.getD []).map Link.id = List.range n
  names : (log.flatMap (fun o => o.2.freedNames) ++ list.map Link.id).Perm (List.range n)
  links : (log.flatMap (fun o => o.2.freedLinks) ++ list.map Link.id).Perm (List.range n)

theorem Choosing.takes {c : Call} {found : Option (List Link)} {list : List Link} {n : ℕ} {y : LocalDir × Seen}
    (h : Choosing sortImages s log) (hoffered : Offered sortImages s log c found list n)
    (ht : Takes s found list n y) : Choosing sortImages y.1 (log ++ [(c, y.2)]) := by
  cases ht with
  | nothing hnil =>
    subst hnil
    have hround := lastRound_looked log c { found := found }
    have hcall : FairCall log (c, { found := found }) :=
      ⟨hoffered.fair, hoffered.finds, iff_of_true rfl (hoffered.none.2 rfl), rfl, rfl⟩
    have hids : foundIds (log ++ [(c, { found := found })]) = List.range n :=
      (foundIds_append log _).trans hoffered.numbers
    simp only [Option.toList_none, List.append_nil] at hround
    constructor
    · constructor
      · exact h.calls.next hcall
      · rw [hround]
        exact hoffered.opened.once
      · rw [hround]
        exact hoffered.opened.ascending
      · rw [hids]
        exact List.nodup_range
      · simpa [hids] using hoffered.names
      · simpa [hids] using hoffered.links
      · exact h.noNull
    · exact h.sorts
    · exact hids
    · rw [hround]
      exact hoffered.opened.before
  | @link order l hl pixbuf hperm hsorted =>
    rw [h.sorts] at hsorted
    have hround := lastRound_looked log c ⟨found, some order[l], pixbuf, [order[l].id], [order[l].id]⟩
    have htake := hoffered.opened.take hl hperm hsorted
    have hsome : found ≠ some [] := fun hnil => by
      have hlist := hoffered.none.1 hnil
      rw [hlist, List.perm_nil] at hperm
      rw [hperm] at hl
      cases hl
    have hcall : FairCall log (c, ⟨found, some order[l], pixbuf, [order[l].id], [order[l].id]⟩) :=
      ⟨hoffered.fair, hoffered.finds, iff_of_false (Option.some_ne_none _) hsome, rfl, rfl⟩
    have hids : foundIds (log ++ [(c, ⟨found, some order[l], pixbuf, [order[l].id], [order[l].id]⟩)]) = List.range n :=
      (foundIds_append log _).trans hoffered.numbers
    simp only [Option.toList_some] at hround
    constructor
    · constructor
      · exact h.calls.next hcall
      · rw [hround]
        exact htake.once
      · rw [hround]
        exact htake.ascending
      · rw [hids]
        exact List.nodup_range
      · rw [hids, List.flatMap_append]
        exact perm_take hl hperm hoffered.names
      · rw [hids, List.flatMap_append]
        exact perm_take hl hperm hoffered.links
      · exact h.noNull
    · exact h.sorts
    · exact hids
    · rw [hround]
      exact htake.before

theorem Choosing.call (h : Choosing sortImages s log) (c : Call) : Choosing sortImages (s.getPixbufFromLocalDir c).1
    (log ++ [(c, (s.getPixbufFromLocalDir c).2)]) := by
  have hnames := h.names
  have hlinks := h.links
  rw [h.numbers] at hnames hlinks
  cases call_does s c with
  | @looks list hnil hlist ht =>
    refine h.takes ?_ ht
    have hdone := h.once
    rw [hnil, List.append_nil] at hdone
    rw [hnil, List.map_nil, List.append_nil] at hnames hlinks
    have hids : list.map Link.id = (List.range c.files.length).map (s.allocated + ·) := by
      rw [hlist]
      exact map_id_mapIdx s.allocated c.files
    constructor
    · exact iff_of_true (Option.some_ne_none _) hdone
    · intro list' hfound
      rw [← Option.some.inj hfound, hlist]
      exact List.ext_getElem (by simp) fun i _ _ => by simp
    · exact Option.some_inj
    · exact ⟨List.Perm.refl _, fun _ => List.Pairwise.nil, fun _ a ha => by cases ha⟩
    · rw [h.numbers, Option.getD_some, hids, List.range_add]
    · rw [hids, List.range_add]
      exact hnames.append_right _
    · rw [hids, List.range_add]
      exact hlinks.append_right _
  | goesOn hmore ht =>
    refine h.takes ?_ ht
    constructor
    · refine iff_of_false (fun hne => hne rfl) fun hall => hmore ?_
      have hlength := h.once.length_eq.trans hall.length_eq.symm
      rw [List.length_append] at hlength
      exact List.eq_nil_of_length_eq_zero (by omega)
    · exact fun list hfound => by cases hfound
    · exact iff_of_false (fun hfound => by cases hfound) hmore
    · exact ⟨h.once, h.ascending, h.before⟩
    · rw [Option.getD_none, List.map_nil, List.append_nil, h.numbers]
    · exact hnames
    · exact hlinks

theorem choosing_invariant (sortImages : Bool) :
    (watched sortImages).Invariant fun x => Choosing sortImages x.1 x.2 where
  start x := by
    rintro ⟨hs, hlog⟩
    obtain ⟨s, log⟩ := x
    cases hs
    cases hlog
    exact choosing_start sortImages
  step x c y h hn := by
    obtain ⟨hs, hlog⟩ := System.recorded_next hn
    have hy : (x.1.getPixbufFromLocalDir c).1 = y.1 := Option.some.inj hs
    rw [hlog, ← hy]
    exact h.call c

/-- However the directory changes, the numbers are drawn and the files load. -/
theorem calls_fair (sortImages : Bool) (s : LocalDir) (log : List (Call × Seen))
    (h : (watched sortImages).Reachable (s, log)) : Fair sortImages s log :=
  ((choosing_invariant sortImages).reachable h).toFair

/- Three files by random numbers, of which one is no image, and then another one. -/
def threeAndOne : List Call :=
  [⟨[[99], [97], [98]], 4, true⟩, ⟨[], 6, false⟩, ⟨[[100]], 0, true⟩, ⟨[[100]], 0, true⟩]

theorem calls_fair_random : ∃ s log, (watched false).run ({ sortImages := false }, []) threeAndOne = some (s, log) ∧
    log.map (fun o => o.2.chosen.map Link.filename) = [some [97], some [99], some [98], some [100]] ∧
      log.map (fun o => o.2.found.map (List.map Link.id)) = [some [0, 1, 2], none, none, some [3]] ∧
      log.flatMap (fun o => o.2.freedNames) = [1, 0, 2, 3] ∧ Fair false s log := by
  obtain ⟨s, log, hrun, hchosen, hfound, hfreed⟩ : ∃ s log,
      (watched false).run ({ sortImages := false }, []) threeAndOne = some (s, log) ∧
        log.map (fun o => o.2.chosen.map Link.filename) = [some [97], some [99], some [98], some [100]] ∧
          log.map (fun o => o.2.found.map (List.map Link.id)) = [some [0, 1, 2], none, none, some [3]] ∧
            log.flatMap (fun o => o.2.freedNames) = [1, 0, 2, 3] :=
    ⟨_, _, rfl, by decide +kernel, by decide +kernel, by decide +kernel⟩
  have hinit : (watched false).init ({ sortImages := false }, []) := ⟨rfl, rfl⟩
  exact ⟨s, log, hrun, hchosen, hfound, hfreed, calls_fair false s log (System.reachable_run (.start hinit) hrun)⟩

end LocalDir
end Slideshow
end MateScreensaver
