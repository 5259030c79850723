import MateScreensaver.Lib.Sorting
import MateScreensaver.ThemeChoice

/-!
The list of themes in the preferences (mate-screensaver-preferences.c): how its rows are sorted, which
of them is selected, and what a selection writes.
-/

namespace MateScreensaver
open Runs System Scan

/- A row of the tree store; a column may be NULL. -/
structure ListRow where
  name : Option Text
  id : Option Text
deriving DecidableEq

/- What gettext and g_utf8_collate do for the user. The second is an order on the names. -/
structure Locale where
  gettext : Text → Text
  collate : Text → Text → ℤ
  collate_total : ∀ a b, collate a b ≤ 0 ∨ collate b a ≤ 0
  collate_trans : ∀ a b c, collate a b ≤ 0 → collate b c ≤ 0 → collate a c ≤ 0

def separatorId : Text := "__separator".toList

/- The rows that are no themes come first, in this order. -/
def rowRank (id : Text) : ℕ :=
  if id = blankOnlyId then 0 else if id = randomId then 1 else if id = separatorId then 2 else 3

/- No theme goes by the id of a row that is no theme. -/
def ThemeManager.OwnIds (tm : ThemeManager) : Prop := ∀ info ∈ tm.getInfoList, rowRank info.fileId = 3

def GSThemeInfo.row (info : GSThemeInfo) : ListRow := ⟨some info.name, some info.fileId⟩

namespace Locale

def blankRow (l : Locale) : ListRow := ⟨some (l.gettext "Blank screen".toList), some blankOnlyId⟩
def randomRow (l : Locale) : ListRow := ⟨some (l.gettext "Random".toList), some randomId⟩
def separatorRow : ListRow := ⟨none, some separatorId⟩

/- mate-screensaver-preferences.c:471 -/
def populateModel (l : Locale) (tm : ThemeManager) : List ListRow :=
  [l.blankRow, l.randomRow, separatorRow] ++ tm.getInfoList.map GSThemeInfo.row

/- mate-screensaver-preferences.c:615 -/
def compareThemeNames (l : Locale) (nameA nameB idA idB : Option Text) : ℤ :=
  match idA, idB with
  | none, _ => 1
  | some _, none => -1
  | some idA, some idB =>
    if idA = blankOnlyId then -1
    else if idB = blankOnlyId then 1
    else if idA = randomId then -1
    else if idB = randomId then 1
    else if idA = separatorId then -1
    else if idB = separatorId then 1
    else
      match nameA, nameB with
      | none, _ => 1
      | some _, none => -1
      | some nameA, some nameB => l.collate nameA nameB

/- mate-screensaver-preferences.c:668, as the sort function of the store. -/
def compareTheme (l : Locale) (a b : ListRow) : Bool := l.compareThemeNames a.name b.name a.id b.id ≤ 0

def compareInfo (l : Locale) (a b : GSThemeInfo) : Bool := l.collate a.name b.name ≤ 0

/- The rows as setup_treeview leaves them: the sort is a stable one. -/
def treeRows (l : Locale) (tm : ThemeManager) : List ListRow := (l.populateModel tm).mergeSort l.compareTheme

/-! ### The order of the rows -/

variable {l : Locale} {tm : ThemeManager} {a b c : ListRow} {idA idB : Text}

/- Rows have ids, and themes have names. -/
structure Named (row : ListRow) : Prop where
  id : ∃ id, row.id = some id
  name : (∃ name, row.name = some name) ∨ rowRank (row.id.getD []) < 3

/- Rows that are no themes are compared by their ranks. -/
theorem compareTheme_fixed (ha : a.id = some idA) (hb : b.id = some idB) (h : rowRank idA < 3 ∨ rowRank idB < 3) :
    l.compareTheme a b = true ↔ rowRank idA ≤ rowRank idB := by
  have hnames : l.compareTheme a b = decide (l.compareThemeNames a.name b.name (some idA) (some idB) ≤ 0) := by
    rw [compareTheme, ha, hb]
  rw [hnames, decide_eq_true_iff]
  unfold compareThemeNames rowRank at *
  have hrandom : randomId ≠ blankOnlyId := by decide
  have hsep : separatorId ≠ blankOnlyId ∧ separatorId ≠ randomId := by decide
  grind

/- Themes are compared by their names. -/
theorem compareTheme_themes (ha : a.id = some idA) (hb : b.id = some idB) (hrankA : rowRank idA = 3)
    (hrankB : rowRank idB = 3) {nameA nameB : Text} (hnameA : a.name = some nameA) (hnameB : b.name = some nameB) :
    l.compareTheme a b = true ↔ l.collate nameA nameB ≤ 0 := by
  have hnames : l.compareTheme a b =
      decide (l.compareThemeNames (some nameA) (some nameB) (some idA) (some idB) ≤ 0) := by
    rw [compareTheme, ha, hb, hnameA, hnameB]
  rw [hnames, decide_eq_true_iff]
  unfold compareThemeNames rowRank at *
  grind

theorem rank_le (id : Text) : rowRank id ≤ 3 := by
  rw [rowRank]
  split_ifs <;> omega

theorem compareTheme_iff (ha : Named a) (hb : Named b) :
    l.compareTheme a b = true ↔ rowRank (a.id.getD []) < rowRank (b.id.getD []) ∨
      rowRank (a.id.getD []) = rowRank (b.id.getD []) ∧ (rowRank (a.id.getD []) < 3 ∨ l.collate (a.name.getD []) (b.name.getD []) ≤ 0) := by
  obtain ⟨⟨idA, hidA⟩, hnameA⟩ := ha
  obtain ⟨⟨idB, hidB⟩, hnameB⟩ := hb
  rw [hidA, Option.getD_some] at hnameA ⊢
  rw [hidB, Option.getD_some] at hnameB ⊢
  have hleA := rank_le idA
  have hleB := rank_le idB
  by_cases hfixed : rowRank idA < 3 ∨ rowRank idB < 3
  · rw [compareTheme_fixed hidA hidB hfixed]
    omega
  · have hrankA : rowRank idA = 3 := by omega
    have hrankB : rowRank idB = 3 := by omega
    obtain ⟨nameA, hnameA⟩ := hnameA.resolve_right (by omega)
    obtain ⟨nameB, hnameB⟩ := hnameB.resolve_right (by omega)
    rw [compareTheme_themes hidA hidB hrankA hrankB hnameA hnameB, hnameA, hnameB, Option.getD_some, Option.getD_some]
    omega

/- The function that the store sorts with is an order on such rows. -/
theorem compareTheme_preorder {rows : List ListRow} (h : ∀ row ∈ rows, Named row) :
    Sorting.PreorderOn l.compareTheme rows where
  trans a ha b hb c hc hab hbc := by
    rw [compareTheme_iff (h a ha) (h b hb)] at hab
    rw [compareTheme_iff (h b hb) (h c hc)] at hbc
    rw [compareTheme_iff (h a ha) (h c hc)]
    have hnames := l.collate_trans (a.name.getD []) (b.name.getD []) (c.name.getD [])
    omega
  total a ha b hb := by
    rw [compareTheme_iff (h a ha) (h b hb), compareTheme_iff (h b hb) (h a ha)]
    have hnames := l.collate_total (a.name.getD []) (b.name.getD [])
    omega

theorem populateModel_named {row : ListRow} (hrow : row ∈ l.populateModel tm) : Named row := by
  rw [populateModel, List.mem_append] at hrow
  cases hrow with
  | inl hfixed =>
    simp only [List.mem_cons, List.not_mem_nil, or_false] at hfixed
    have hblank : rowRank blankOnlyId < 3 := by decide
    have hrandom : rowRank randomId < 3 := by decide
    have hsep : rowRank separatorId < 3 := by decide
    rcases hfixed with rfl | rfl | rfl
    · exact ⟨⟨_, rfl⟩, .inr hblank⟩
    · exact ⟨⟨_, rfl⟩, .inr hrandom⟩
    · exact ⟨⟨_, rfl⟩, .inr hsep⟩
  | inr hmem =>
    obtain ⟨info, -, rfl⟩ := List.mem_map.1 hmem
    exact ⟨⟨_, rfl⟩, .inl ⟨_, rfl⟩⟩

theorem fixedRows_sorted (l : Locale) :
    [l.blankRow, l.randomRow, separatorRow].Pairwise fun a b => l.compareTheme a b = true := by
  have hblankRandom : l.compareTheme l.blankRow l.randomRow = true :=
    (compareTheme_fixed rfl rfl (by decide)).2 (by decide)
  have hblankSep : l.compareTheme l.blankRow separatorRow = true :=
    (compareTheme_fixed rfl rfl (by decide)).2 (by decide)
  have hrandomSep : l.compareTheme l.randomRow separatorRow = true :=
    (compareTheme_fixed rfl rfl (by decide)).2 (by decide)
  simp [hblankRandom, hblankSep, hrandomSep]

theorem fixedRows_below (hids : tm.OwnIds) : ∀ a ∈ [l.blankRow, l.randomRow, separatorRow],
    ∀ b ∈ tm.getInfoList.map GSThemeInfo.row, l.compareTheme a b = true := by
  intro a ha b hb
  obtain ⟨info, hinfo, rfl⟩ := List.mem_map.1 hb
  have hrank := hids info hinfo
  have hblank : rowRank blankOnlyId = 0 := by decide
  have hrandom : rowRank randomId = 1 := by decide
  have hsep : rowRank separatorId = 2 := by decide
  simp only [List.mem_cons, List.not_mem_nil, or_false] at ha
  rcases ha with rfl | rfl | rfl
  · exact (compareTheme_fixed rfl rfl (by omega)).2 (by omega)
  · exact (compareTheme_fixed rfl rfl (by omega)).2 (by omega)
  · exact (compareTheme_fixed rfl rfl (by omega)).2 (by omega)

theorem treeRows_eq (l : Locale) (hids : tm.OwnIds) : l.treeRows tm =
    [l.blankRow, l.randomRow, separatorRow] ++ (tm.getInfoList.mergeSort l.compareInfo).map GSThemeInfo.row := by
  rw [treeRows, populateModel, Sorting.mergeSort_front (compareTheme_preorder fun row hrow => populateModel_named hrow)
    l.fixedRows_sorted (fixedRows_below hids)]
  congr 1
  rw [List.map_mergeSort (s := l.compareTheme)]
  intro a ha b hb
  rw [Bool.eq_iff_iff, compareTheme_themes rfl rfl (hids a ha) (hids b hb) rfl rfl, compareInfo, decide_eq_true_iff]

/-- The rows are the blank screen, the random choice, the separator and then the themes, each once and
by their names as the user's locale has them; themes of equal names stay in the order of the menu. -/
theorem tree_rows_sorted (hids : tm.OwnIds) :
    l.treeRows tm =
        [l.blankRow, l.randomRow, separatorRow] ++ (tm.getInfoList.mergeSort l.compareInfo).map GSThemeInfo.row ∧
      (tm.getInfoList.mergeSort l.compareInfo).Pairwise (fun a b => l.collate a.name b.name ≤ 0) ∧
      ∀ a b, l.collate a.name b.name ≤ 0 → [a, b].Sublist tm.getInfoList →
        [a, b].Sublist (tm.getInfoList.mergeSort l.compareInfo) := by
  have htrans : ∀ a b c : GSThemeInfo, l.compareInfo a b = true → l.compareInfo b c = true → l.compareInfo a c = true :=
    fun a b c hab hbc => decide_eq_true (l.collate_trans _ _ _ (of_decide_eq_true hab) (of_decide_eq_true hbc))
  have htotal : ∀ a b : GSThemeInfo, (l.compareInfo a b || l.compareInfo b a) = true := by
    intro a b
    rw [Bool.or_eq_true, compareInfo, compareInfo, decide_eq_true_iff, decide_eq_true_iff]
    exact l.collate_total _ _
  refine ⟨l.treeRows_eq hids, ?_, ?_⟩
  · exact (List.pairwise_mergeSort htrans htotal _).imp fun h => of_decide_eq_true h
  · intro a b hle hsub
    exact List.pair_sublist_mergeSort htrans htotal (decide_eq_true hle) hsub

end Locale

/- Names are compared by their characters. -/
def compareChars : Text → Text → ℤ
  | [], [] => 0
  | [], _ :: _ => -1
  | _ :: _, [] => 1
  | a :: as, b :: bs => if a.toNat < b.toNat then -1 else if b.toNat < a.toNat then 1 else compareChars as bs

theorem compareChars_total (a b : Text) : compareChars a b ≤ 0 ∨ compareChars b a ≤ 0 := by
  induction a generalizing b with
  | nil =>
    left
    cases b with
    | nil => simp [compareChars]
    | cons y b => simp [compareChars]
  | cons x a ih =>
    cases b with
    | nil =>
      right
      simp [compareChars]
    | cons y b =>
      have hrest := ih b
      simp only [compareChars]
      split_ifs <;> omega

theorem compareChars_trans (a b c : Text) (hab : compareChars a b ≤ 0) (hbc : compareChars b c ≤ 0) :
    compareChars a c ≤ 0 := by
  induction a generalizing b c with
  | nil =>
    cases c with
    | nil => simp [compareChars]
    | cons z c => simp [compareChars]
  | cons x a ih =>
    cases b with
    | nil => exact absurd hab (by simp [compareChars])
    | cons y b =>
      cases c with
      | nil => exact absurd hbc (by simp [compareChars])
      | cons z c =>
        have hrest := ih b c
        simp only [compareChars] at hab hbc ⊢
        split_ifs at hab hbc ⊢ <;> omega

def plainLocale : Locale where
  gettext text := text
  collate := compareChars
  collate_total := compareChars_total
  collate_trans := compareChars_trans

/- The menu does not have the themes by their names. -/
def unsortedMenu : ThemeManager where
  config := ThemeManager.smallMenu.config
  files := ThemeManager.smallMenu.files
  menu := some [.entry ⟨"Pop".toList, "popsquares.desktop".toList, none⟩,
    .entry ⟨"Floating".toList, "floaters.desktop".toList, none⟩]

theorem unsortedMenu_infos : unsortedMenu.getInfoList =
    [⟨"Pop".toList, none, "popsquares".toList⟩, ⟨"Floating".toList, none, "floaters".toList⟩] := by
  rw [ThemeManager.getInfoList_eq]
  decide +kernel

theorem unsortedMenu_ownIds : unsortedMenu.OwnIds := by
  intro info hinfo
  rw [unsortedMenu_infos] at hinfo
  revert info
  decide +kernel

def floatersRow : ListRow := ⟨some "Floating".toList, some "floaters".toList⟩
def popRow : ListRow := ⟨some "Pop".toList, some "popsquares".toList⟩

theorem unsorted_infos_sorted : unsortedMenu.getInfoList.mergeSort plainLocale.compareInfo =
    [⟨"Floating".toList, none, "floaters".toList⟩, ⟨"Pop".toList, none, "popsquares".toList⟩] := by
  have hpop : plainLocale.compareInfo ⟨"Pop".toList, none, "popsquares".toList⟩
      ⟨"Floating".toList, none, "floaters".toList⟩ = false := by
    decide +kernel
  rw [unsortedMenu_infos, Sorting.mergeSort_pair, hpop]
  rfl

theorem tree_rows_sorted_unsorted : plainLocale.treeRows unsortedMenu =
    [plainLocale.blankRow, plainLocale.randomRow, Locale.separatorRow, floatersRow, popRow] := by
  rw [(Locale.tree_rows_sorted unsortedMenu_ownIds).1, unsorted_infos_sorted]
  rfl

/-! ### What is selected -/

/- The list of the dialog, with the themes and the settings that it is for, and the keys that can be
written. -/
structure ThemeDialog where
  locale : Locale
  themes : ThemeManager
  settings : Preferences
  isWritable : String → Bool
  sensitive : Bool
  selected : Option ℕ

/- The list comes up or hears that the themes are changed; a row is chosen, in the list or by the
buttons of the fullscreen preview; the settings change or their signals come. -/
inductive ThemeDialogEvent
  | setup
  | choose (i : ℕ)
  | previous
  | next
  | settings (e : PrefsEvent)

/- mate-screensaver-preferences.c:695 -/
def separatorFunc (row : ListRow) : Bool := row.id = some separatorId

namespace ThemeDialog

def rows (x : ThemeDialog) : List ListRow := x.locale.treeRows x.themes

/- mate-screensaver-preferences.c:566 -/
def treeSelectionChangedCb (x : ThemeDialog) (row : ListRow) : Option ThemeDialog :=
  match row.id with
  | none => some x
  | some theme =>
    (Preferences.system.run x.settings (configSetTheme x.isWritable [] x.themes theme)).map fun p =>
      { x with settings := p }

/- gtk_tree_selection_select_path: no separator can be selected. -/
def selectPath (x : ThemeDialog) (i : ℕ) : Option ThemeDialog :=
  match x.rows[i]? with
  | none => some x
  | some row =>
    if separatorFunc row ∨ x.selected = some i then some x
    else { x with selected := some i }.treeSelectionChangedCb row

/- The is_writable of config_get_theme. -/
def themeWritable (x : ThemeDialog) : Bool := x.isWritable "themes" && x.isWritable "mode"

/- mate-screensaver-preferences.c:765 -/
def setupTreeviewSelection (x : ThemeDialog) : Option ThemeDialog :=
  let x := if x.themeWritable then x else { x with sensitive := false }
  match configGetTheme x.settings.store with
  | none => some x
  | some theme =>
    match x.rows.findIdx? fun row => row.id = some theme with
    | none => some x
    | some i => x.selectPath i

/- mate-screensaver-preferences.c:530 -/
def treeSelectionPrevious (x : ThemeDialog) : Option ThemeDialog :=
  match x.selected with
  | none | some 0 => some x
  | some (i + 1) => x.selectPath i

/- mate-screensaver-preferences.c:549 -/
def treeSelectionNext (x : ThemeDialog) : Option ThemeDialog :=
  match x.selected with
  | none => some x
  | some i => x.selectPath (i + 1)

def next (x : ThemeDialog) : ThemeDialogEvent → Option ThemeDialog
  | .setup => x.setupTreeviewSelection
  | .choose i => if x.sensitive then x.selectPath i else none
  | .previous => x.treeSelectionPrevious
  | .next => x.treeSelectionNext
  | .settings e => (x.settings.next e).map fun p => { x with settings := p }

def system : System ThemeDialog ThemeDialogEvent where
  init x := Preferences.system.Reachable x.settings ∧ x.sensitive = true ∧ x.selected = none
  next := ThemeDialog.next

variable {x y : ThemeDialog} {e : ThemeDialogEvent} {row : ListRow} {i j k : ℕ} {id : Text}

/- What a step can do: nothing, put a row that is no separator in the place of the selected one, or
something to the settings alone. In the first two cases the list may become insensitive. -/
inductive Step (x : ThemeDialog) : ThemeDialogEvent → ThemeDialog → Prop
  | nothing (e : ThemeDialogEvent) (sensitive : Bool) : Step x e { x with sensitive := sensitive }
  | selected (e : ThemeDialogEvent) (sensitive : Bool) {i : ℕ} {row : ListRow} {id : Text} {p : Preferences} :
      x.rows[i]? = some row → row.id = some id → id ≠ separatorId →
      Preferences.system.run x.settings (configSetTheme x.isWritable [] x.themes id) = some p →
      Step x e { x with settings := p, sensitive := sensitive, selected := some i }
  | settings {e : PrefsEvent} {p : Preferences} : x.settings.next e = some p → Step x (.settings e) { x with settings := p }

theorem rows_id (hrow : row ∈ x.rows) : ∃ id, row.id = some id := by
  rw [rows, Locale.treeRows, List.mem_mergeSort] at hrow
  exact (Locale.populateModel_named hrow).id

theorem Step.of_selectPath (sensitive : Bool) (h : { x with sensitive := sensitive }.selectPath i = some y) :
    Step x e y := by
  rw [selectPath] at h
  split at h
  · cases h
    exact .nothing _ _
  · next row hrow =>
    split at h
    · cases h
      exact .nothing _ _
    · next hsep =>
      obtain ⟨id, hid⟩ := rows_id (List.mem_of_getElem? hrow)
      rw [treeSelectionChangedCb, hid] at h
      obtain ⟨p, hp, rfl⟩ := Option.map_eq_some_iff.1 h
      have htheme : id ≠ separatorId := by
        intro hsame
        rw [hsame] at hid
        exact hsep (.inl (decide_eq_true hid))
      exact Step.selected (x := x) e sensitive hrow hid htheme hp

theorem setup_sensitive (x : ThemeDialog) : ∃ sensitive, x.setupTreeviewSelection =
    match configGetTheme x.settings.store with
    | none => some { x with sensitive := sensitive }
    | some theme =>
      match x.rows.findIdx? fun row => row.id = some theme with
      | none => some { x with sensitive := sensitive }
      | some i => { x with sensitive := sensitive }.selectPath i := by
  rw [setupTreeviewSelection]
  cases x.themeWritable with
  | true => exact ⟨x.sensitive, rfl⟩
  | false => exact ⟨false, rfl⟩

theorem step_of_next (h : x.next e = some y) : Step x e y := by
  cases e with
  | setup =>
    obtain ⟨sensitive, hsetup⟩ := setup_sensitive x
    rw [next, hsetup] at h
    split at h
    · cases h
      exact .nothing _ _
    · split at h
      · cases h
        exact .nothing _ _
      · exact .of_selectPath sensitive h
  | choose i =>
    obtain ⟨-, hselect⟩ := Option.ite_none_right_eq_some.1 h
    exact .of_selectPath x.sensitive hselect
  | previous =>
    rw [next, treeSelectionPrevious] at h
    split at h
    · cases h
      exact .nothing _ _
    · cases h
      exact .nothing _ _
    · exact .of_selectPath x.sensitive h
  | next =>
    rw [next, treeSelectionNext] at h
    split at h
    · cases h
      exact .nothing _ _
    · exact .of_selectPath x.sensitive h
  | settings e =>
    obtain ⟨p, hp, rfl⟩ := Option.map_eq_some_iff.1 h
    exact .settings hp

/-! ### The selected row and the settings -/

/- The theme is what is written under the two keys. -/
structure Keeps (tm : ThemeManager) (p : Preferences) (id : Text) : Prop where
  mode : p.store .screensaver "mode" = .enum (themeSettings tm id).1
  themes : p.store .screensaver "themes" = .strv ((themeSettings tm id).2.map String.ofList)

theorem Keeps.of_configSetTheme {tm : ThemeManager} {p q : Preferences} {isWritable : String → Bool}
    (hmodeWritable : isWritable "mode" = true) (hthemesWritable : isWritable "themes" = true)
    (h : Preferences.system.run p (configSetTheme isWritable [] tm id) = some q) : Keeps tm q id := by
  have hnone : ∀ e ∈ ([] : List PrefsEvent), e.SparesTheme := by
    intro e he
    cases he
  have hrun : Preferences.system.run p (configSetTheme isWritable [] tm id ++ []) = some q := by
    rw [List.append_nil]
    exact h
  obtain ⟨hmode, hthemes⟩ := Preferences.store_chosen hmodeWritable hthemesWritable hnone hnone hrun
  exact ⟨hmode, hthemes⟩

theorem Keeps.spared {tm : ThemeManager} {p q : Preferences} {e : PrefsEvent} (h : Keeps tm p id) (hspares : e.SparesTheme)
    (hq : p.next e = some q) : Keeps tm q id := by
  obtain ⟨hmode, hthemes⟩ := Preferences.store_spared hspares hq
  exact ⟨hmode.trans h.mode, hthemes.trans h.themes⟩

theorem Keeps.configGetTheme {tm : ThemeManager} {p : Preferences} (h : Keeps tm p id) (hid : id ≠ []) :
    configGetTheme p.store = some id := by
  rw [MateScreensaver.configGetTheme, h.mode, h.themes, themeSettings]
  by_cases hblank : id = blankOnlyId
  · rw [if_pos hblank, hblank]
    rfl
  · by_cases hrandom : id = randomId
    · rw [if_neg hblank, if_pos hrandom, hrandom]
      rfl
    · rw [if_neg hblank, if_neg hrandom, gStrsplitOnce, if_neg hid]
      exact congrArg some String.toList_ofList

/- Neither write is ever an error. -/
theorem configSetTheme_some (isWritable : String → Bool) (tm : ThemeManager) (p : Preferences) (id : Text) :
    ∃ q, Preferences.system.run p (configSetTheme isWritable [] tm id) = some q := by
  have hmode : Schema.screensaver.declares "mode" = true := by decide
  have hthemes : Schema.screensaver.declares "themes" = true := by decide
  rw [configSetTheme, List.append_nil, gSettingsSet, gSettingsSet]
  cases isWritable "mode" <;> cases isWritable "themes" <;>
    simp [System.run, Preferences.system, Preferences.next, hmode, hthemes]

/- The settings are the dialog's to write as far as the theme goes. -/
def Spares : ThemeDialogEvent → Prop
  | .settings e => e.SparesTheme
  | _ => True

/- The selected row has this id. -/
def Selects (x : ThemeDialog) (i : ℕ) (id : Text) : Prop :=
  x.selected = some i ∧ id ≠ separatorId ∧ ∃ row, x.rows[i]? = some row ∧ row.id = some id

theorem Step.same (h : Step x e y) : y.rows = x.rows ∧ y.themes = x.themes ∧ y.isWritable = x.isWritable := by
  cases h with
  | nothing => exact ⟨rfl, rfl, rfl⟩
  | selected => exact ⟨rfl, rfl, rfl⟩
  | settings => exact ⟨rfl, rfl, rfl⟩

/- A row is selected, if there is one, and it is a row of the list that is no separator. -/
def Placed (x : ThemeDialog) : Prop := ∀ i, x.selected = some i → ∃ id, x.Selects i id

theorem Placed.step (hx : x.Placed) (h : Step x e y) : y.Placed := by
  intro i hi
  cases h with
  | nothing => exact hx i hi
  | selected e sensitive hrow hid hsep hp =>
    cases hi
    exact ⟨_, rfl, hsep, _, hrow, hid⟩
  | settings hp => exact hx i hi

theorem placed_invariant : system.Invariant Placed where
  start x hx i hi := by
    rw [hx.2.2] at hi
    cases hi
  step x e y hx hn := hx.step (step_of_next hn)

/- The selected row is the one that the settings have, where these can be written. -/
def Stored (x : ThemeDialog) : Prop := x.themeWritable = true → ∀ i id, x.Selects i id → Keeps x.themes x.settings id

theorem themeWritable_iff : x.themeWritable = true ↔ x.isWritable "themes" = true ∧ x.isWritable "mode" = true := by
  rw [themeWritable, Bool.and_eq_true]

theorem Stored.step (hx : x.Stored) (h : Step x e y) (hspares : Spares e) : y.Stored := by
  intro hwritable i id hid
  cases h with
  | nothing => exact hx hwritable i id hid
  | selected e sensitive hrow hrowId hsep hp =>
    obtain ⟨hi, -, row, hrow', hid⟩ := hid
    cases hi
    cases hrow.symm.trans hrow'
    cases hrowId.symm.trans hid
    obtain ⟨hthemes, hmode⟩ := themeWritable_iff.1 hwritable
    exact .of_configSetTheme hmode hthemes hp
  | settings hp => exact (hx hwritable i id hid).spared hspares hp

theorem selectPath_some (hrow : x.rows[i]? = some row) (hid : row.id = some id) (hsep : id ≠ separatorId)
    (hnew : x.selected ≠ some i) :
    ∃ p, Preferences.system.run x.settings (configSetTheme x.isWritable [] x.themes id) = some p ∧
      x.selectPath i = some { x with settings := p, selected := some i } := by
  obtain ⟨p, hp⟩ := configSetTheme_some x.isWritable x.themes x.settings id
  have hnosep : ¬ (separatorFunc row = true ∨ x.selected = some i) := by
    rw [separatorFunc, hid]
    simp [hsep, hnew]
  refine ⟨p, hp, ?_⟩
  rw [selectPath, hrow]
  dsimp only
  rw [if_neg hnosep, treeSelectionChangedCb, hid]
  dsimp only
  rw [hp]
  rfl

/- The list stays the same, and so does what can be written. -/
theorem run_same {es : List ThemeDialogEvent} (hrun : system.run x es = some y) :
    y.rows = x.rows ∧ y.themes = x.themes ∧ y.isWritable = x.isWritable := by
  apply run_keeps (S := system) (I := fun z => z.rows = x.rows ∧ z.themes = x.themes ∧ z.isWritable = x.isWritable)
    (C := fun _ => True) _ ⟨rfl, rfl, rfl⟩ hrun fun _ _ => trivial
  intro s e t hs hn _
  obtain ⟨hrows, hthemes, hwritable⟩ := (step_of_next hn).same
  exact ⟨hrows.trans hs.1, hthemes.trans hs.2.1, hwritable.trans hs.2.2⟩

/- The list is looked at, and the first theme is chosen by the button. -/
def opened : ThemeDialog := ⟨plainLocale, unsortedMenu, Preferences.blankStore, fun _ => true, true, none⟩

theorem opened_rows :
    opened.rows = [plainLocale.blankRow, plainLocale.randomRow, Locale.separatorRow, floatersRow, popRow] := by
  rw [rows, opened, Locale.treeRows_eq _ unsortedMenu_ownIds, unsorted_infos_sorted]
  rfl

/- A row of the list can be selected unless it is the third one. -/
theorem row_selectable (hids : x.themes.OwnIds) (hlt : k < x.rows.length) (hk : k ≠ 2) :
    ∃ row id, x.rows[k]? = some row ∧ row.id = some id ∧ id ≠ separatorId := by
  rw [rows, Locale.treeRows_eq _ hids] at hlt ⊢
  have hfixed : blankOnlyId ≠ separatorId ∧ randomId ≠ separatorId := by decide
  match k, hk with
  | 0, _ => exact ⟨_, _, rfl, rfl, hfixed.1⟩
  | 1, _ => exact ⟨_, _, rfl, rfl, hfixed.2⟩
  | m + 3, _ =>
    have hm : m < ((x.themes.getInfoList.mergeSort x.locale.compareInfo).map GSThemeInfo.row).length := by
      simp only [List.length_append, List.length_cons, List.length_nil] at hlt
      omega
    have hrow := List.getElem?_eq_getElem hm
    obtain ⟨info, hinfo, hsame⟩ := List.mem_map.1 (List.getElem_mem hm)
    refine ⟨_, info.fileId, hrow, ?_, ?_⟩
    · rw [← hsame]
      rfl
    · intro hsep
      have hrank := hids info (List.mem_mergeSort.1 hinfo)
      rw [hsep] at hrank
      exact absurd hrank (by decide)

theorem row_two (hids : x.themes.OwnIds) : x.rows[2]? = some Locale.separatorRow := by
  rw [rows, Locale.treeRows_eq _ hids]
  rfl

theorem Selects.ne_two (hids : x.themes.OwnIds) (h : x.Selects k id) : k ≠ 2 := by
  intro hk
  obtain ⟨-, hsep, row, hrow, hid⟩ := h
  rw [hk, row_two hids] at hrow
  cases hrow
  exact hsep (Option.some.inj hid).symm

theorem Selects.lt (h : x.Selects k id) : k < x.rows.length := by
  obtain ⟨-, -, row, hrow, -⟩ := h
  exact (List.getElem?_eq_some_iff.1 hrow).1

/- One of the two buttons. -/
def Arrow (e : ThemeDialogEvent) : Prop := e = .previous ∨ e = .next

theorem selectPath_selected (h : x.selectPath i = some y) : y.selected = x.selected ∨ y.selected = some i := by
  rw [selectPath] at h
  split at h
  · cases h
    exact .inl rfl
  · next row _ =>
    split at h
    · cases h
      exact .inl rfl
    · rw [treeSelectionChangedCb] at h
      split at h
      · cases h
        exact .inr rfl
      · obtain ⟨p, -, rfl⟩ := Option.map_eq_some_iff.1 h
        exact .inr rfl

theorem arrow_selected (he : Arrow e) (h : x.next e = some y) (hk : x.selected = some k) :
    ∃ j, y.selected = some j ∧ j ≤ k + 1 ∧ k ≤ j + 1 := by
  cases he with
  | inl he =>
    subst he
    rw [next, treeSelectionPrevious, hk] at h
    cases k with
    | zero =>
      cases h
      exact ⟨0, hk, by omega, by omega⟩
    | succ k =>
      cases selectPath_selected h with
      | inl hsame => exact ⟨k + 1, hsame.trans hk, by omega, by omega⟩
      | inr hnew => exact ⟨k, hnew, by omega, by omega⟩
  | inr he =>
    subst he
    rw [next, treeSelectionNext, hk] at h
    cases selectPath_selected h with
    | inl hsame => exact ⟨k, hsame.trans hk, by omega, by omega⟩
    | inr hnew => exact ⟨k + 1, hnew, by omega, by omega⟩

/- The buttons leave the selection on its side of the separator. -/
theorem arrows_side {es : List ThemeDialogEvent} (hids : x.themes.OwnIds) (hx : x.Placed) (hi : x.selected = some i)
    (hrun : system.run x es = some y) (harrows : ∀ e ∈ es, Arrow e) :
    ∃ j, y.selected = some j ∧ j < x.rows.length ∧ j ≠ 2 ∧ (j < 2 ↔ i < 2) := by
  have hside : y.themes.OwnIds ∧ y.Placed ∧ ∃ j, y.selected = some j ∧ (j < 2 ↔ i < 2) := by
    apply run_keeps (S := system) (I := fun z => z.themes.OwnIds ∧ z.Placed ∧ ∃ j, z.selected = some j ∧ (j < 2 ↔ i < 2))
      (C := Arrow) _ ⟨hids, hx, i, hi, Iff.rfl⟩ hrun harrows
    intro s e t hs hn he
    obtain ⟨hown, hplaced, k, hk, hkside⟩ := hs
    have hown' : t.themes.OwnIds := by
      rw [(step_of_next hn).same.2.1]
      exact hown
    have hplaced' := hplaced.step (step_of_next hn)
    obtain ⟨j, hj, hup, hdown⟩ := arrow_selected he hn hk
    obtain ⟨_, hold⟩ := hplaced k hk
    obtain ⟨_, hnew⟩ := hplaced' j hj
    have hktwo := hold.ne_two hown
    have hjtwo := hnew.ne_two hown'
    exact ⟨hown', hplaced', j, hj, by omega⟩
  obtain ⟨hown, hplaced, j, hj, hjside⟩ := hside
  obtain ⟨_, hselects⟩ := hplaced j hj
  have hlt := hselects.lt
  rw [(run_same hrun).1] at hlt
  exact ⟨j, hj, hlt, hselects.ne_two hown, hjside⟩

/- Rows between which there is no separator are reached one after the other. -/
theorem reach_up (n : ℕ) (hids : x.themes.OwnIds) (hk : x.selected = some k) (hlt : k + n < x.rows.length)
    (hside : k + n < 2 ∨ 2 < k) : ∃ y, system.run x (List.replicate n .next) = some y ∧ y.selected = some (k + n) := by
  induction n generalizing x k with
  | zero => exact ⟨x, rfl, hk⟩
  | succ n ih =>
    obtain ⟨row, id, hrow, hid, hsep⟩ := row_selectable (k := k + 1) hids (by omega) (by omega)
    have hnew : x.selected ≠ some (k + 1) := by
      rw [hk]
      simp
    obtain ⟨p, -, hselect⟩ := selectPath_some hrow hid hsep hnew
    have hnext : system.next x .next = some { x with settings := p, selected := some (k + 1) } := by
      change x.treeSelectionNext = _
      rw [treeSelectionNext, hk]
      exact hselect
    obtain ⟨y, hrun, hy⟩ := ih (x := { x with settings := p, selected := some (k + 1) }) hids rfl (by
      change k + 1 + n < x.rows.length
      omega) (by omega)
    refine ⟨y, ?_, ?_⟩
    · rw [List.replicate_succ, System.run, hnext]
      exact hrun
    · rw [hy]
      congr 1
      omega

theorem reach_down (n : ℕ) (hids : x.themes.OwnIds) (hk : x.selected = some (k + n)) (hlt : k + n < x.rows.length)
    (hside : k + n < 2 ∨ 2 < k) : ∃ y, system.run x (List.replicate n .previous) = some y ∧ y.selected = some k := by
  induction n generalizing x with
  | zero => exact ⟨x, rfl, hk⟩
  | succ n ih =>
    obtain ⟨row, id, hrow, hid, hsep⟩ := row_selectable (k := k + n) hids (by omega) (by omega)
    have hnew : x.selected ≠ some (k + n) := by
      rw [hk]
      simp
    obtain ⟨p, -, hselect⟩ := selectPath_some hrow hid hsep hnew
    have hnext : system.next x .previous = some { x with settings := p, selected := some (k + n) } := by
      change x.treeSelectionPrevious = _
      rw [treeSelectionPrevious, hk]
      exact hselect
    obtain ⟨y, hrun, hy⟩ := ih (x := { x with settings := p, selected := some (k + n) }) hids rfl (by
      change k + n < x.rows.length
      omega) (by omega)
    refine ⟨y, ?_, hy⟩
    rw [List.replicate_succ, System.run, hnext]
    exact hrun

/-- With the buttons of the fullscreen preview exactly the rows on the same side of the separator can be
reached: from the blank screen and the random choice no theme, and from a theme all other themes. -/
theorem arrows_reach_iff (hids : x.themes.OwnIds) (hreach : system.Reachable x) (hi : x.selected = some i) (j : ℕ) :
    (∃ es, (∀ e ∈ es, Arrow e) ∧ ∃ y, system.run x es = some y ∧ y.selected = some j) ↔
      j < x.rows.length ∧ j ≠ 2 ∧ (j < 2 ↔ i < 2) := by
  have hplaced := placed_invariant.reachable hreach
  obtain ⟨id, hselects⟩ := hplaced i hi
  have hlt := hselects.lt
  have htwo := hselects.ne_two hids
  constructor
  · intro h
    obtain ⟨es, harrows, y, hrun, hj⟩ := h
    obtain ⟨j', hj', hspec⟩ := arrows_side hids hplaced hi hrun harrows
    cases hj.symm.trans hj'
    exact hspec
  · intro h
    obtain ⟨hjlt, hjtwo, hside⟩ := h
    rcases Nat.le_total i j with hle | hle
    · obtain ⟨n, rfl⟩ := Nat.exists_eq_add_of_le hle
      obtain ⟨y, hrun, hy⟩ := reach_up n hids hi hjlt (by omega)
      refine ⟨_, fun e he => ?_, y, hrun, hy⟩
      exact .inr (List.eq_of_mem_replicate he)
    · obtain ⟨n, rfl⟩ := Nat.exists_eq_add_of_le hle
      obtain ⟨y, hrun, hy⟩ := reach_down n hids hi hlt (by omega)
      refine ⟨_, fun e he => ?_, y, hrun, hy⟩
      exact .inl (List.eq_of_mem_replicate he)

theorem arrows_reach_random : ∃ x : ThemeDialog, x.selected = some 0 ∧ x.rows.length = 5 ∧
    ¬ ∃ es, (∀ e ∈ es, Arrow e) ∧ ∃ y, system.run x es = some y ∧ y.selected = some 3 := by
  have hblank : blankOnlyId ≠ separatorId := by decide
  have hrow : opened.rows[0]? = some plainLocale.blankRow := by
    rw [opened_rows]
    rfl
  obtain ⟨p, -, hchoose⟩ := selectPath_some hrow rfl hblank (by simp [opened])
  have hstart : system.Reachable opened := .start ⟨.start ⟨rfl, rfl⟩, rfl, rfl⟩
  have hstep : system.next opened (.choose 0) = some { opened with settings := p, selected := some 0 } := hchoose
  have hreach := hstart.step hstep
  refine ⟨{ opened with settings := p, selected := some 0 }, rfl, congrArg List.length opened_rows, fun h => ?_⟩
  obtain ⟨-, -, hside⟩ := (arrows_reach_iff unsortedMenu_ownIds hreach rfl 3).1 h
  omega

end ThemeDialog
end MateScreensaver
