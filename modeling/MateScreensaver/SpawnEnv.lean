import Mathlib.Data.List.Basic
import MateScreensaver.Lib.Scan

/-!
The environment of what a window spawns (gs-window-x11.c): a copy of the environment in which
the entry for DISPLAY is to name the display of the window.
-/

namespace MateScreensaver
open Scan

/- strncmp (entry, "DISPLAY", strlen ("DISPLAY")) == 0 -/
def beginsDisplay (entry : Text) : Bool := "DISPLAY".toList.isPrefixOf entry

/- g_strconcat ("DISPLAY=", display_name, NULL) -/
def displayEntry (displayName : Text) : Text := "DISPLAY=".toList ++ displayName

/- The first loop of gs-window-x11.c:431, with env_len and display_index so far. -/
def scanDisplay (envLen : ℕ) (displayIndex : ℤ) : List Text → ℕ × ℤ
  | [] => (envLen, displayIndex)
  | entry :: envp => scanDisplay (envLen + 1) (if beginsDisplay entry then envLen else displayIndex) envp

/- The second one, from the i-th entry on. -/
def copyEntries (displayIndex : ℤ) (displayName : Text) (i : ℕ) : List Text → List Text
  | [] => []
  | entry :: envp =>
    (if (i : ℤ) = displayIndex then displayEntry displayName else entry) ::
      copyEntries displayIndex displayName (i + 1) envp

/- gs-window-x11.c:431; envp is NULL for the environment of the process. -/
def spawnMakeEnvironmentForDisplay (environ : List Text) (displayName : Text) (envp : Option (List Text)) :
    List Text :=
  let envp := envp.getD environ
  copyEntries (scanDisplay 0 (-1) envp).2 displayName 0 envp

/- The entry gives DISPLAY a value. -/
def definesDisplay (entry : Text) : Bool := "DISPLAY=".toList.isPrefixOf entry

/-- One entry defines DISPLAY, as this display, and those of other variables are what they were. -/
def NamesDisplay (displayName : Text) (env result : List Text) : Prop :=
  result.filter definesDisplay = [displayEntry displayName] ∧
    result.filter (!definesDisplay ·) = env.filter (!definesDisplay ·)

/-- One entry defines DISPLAY, and it is the last of those that begin so. -/
def DefinedLast (env : List Text) : Prop :=
  (env.filter definesDisplay).length = 1 ∧ ∃ entry ∈ (env.filter beginsDisplay).getLast?, definesDisplay entry = true

variable {env before after : List Text} {entry displayName : Text}

theorem begins_of_defines (h : definesDisplay entry = true) : beginsDisplay entry = true := by
  simp only [definesDisplay, beginsDisplay, List.isPrefixOf_iff_prefix] at h ⊢
  exact (by decide : "DISPLAY".toList <+: "DISPLAY=".toList).trans h

theorem defines_displayEntry (displayName : Text) : definesDisplay (displayEntry displayName) = true :=
  List.isPrefixOf_iff_prefix.2 (List.prefix_append _ _)

/- The scan keeps the index when nothing begins with DISPLAY. -/
theorem scanDisplay_none {n : ℕ} {k : ℤ} (h : ∀ entry ∈ env, beginsDisplay entry = false) :
    scanDisplay n k env = (n + env.length, k) := by
  induction env generalizing n with
  | nil => rfl
  | cons entry env ih =>
    have hentry := h entry List.mem_cons_self
    have htail := @ih (n + 1) fun e he => h e (List.mem_cons_of_mem _ he)
    rw [scanDisplay, hentry, if_neg (by decide), htail, List.length_cons]
    congr 1
    omega

/- It ends with the index of the last entry that does. -/
theorem scanDisplay_last {n : ℕ} {k : ℤ} (hentry : beginsDisplay entry = true)
    (hafter : ∀ e ∈ after, beginsDisplay e = false) :
    (scanDisplay n k (before ++ entry :: after)).2 = n + before.length := by
  induction before generalizing n k with
  | nil => simp [scanDisplay, hentry, scanDisplay_none hafter]
  | cons e before ih =>
    rw [List.cons_append, scanDisplay, ih, List.length_cons]
    omega

/- No index from here on is that of the entry to replace. -/
theorem copyEntries_other {k : ℤ} {i : ℕ} (h : ∀ j < env.length, ((i + j : ℕ) : ℤ) ≠ k) :
    copyEntries k displayName i env = env := by
  induction env generalizing i with
  | nil => rfl
  | cons entry env ih =>
    have hi : (i : ℤ) ≠ k := h 0 (by simp)
    have htail := @ih (i + 1) fun j hj => by
      have hne := h (j + 1) (by simpa using hj)
      rwa [show i + 1 + j = i + (j + 1) by omega]
    rw [copyEntries, if_neg hi, htail]

theorem copyEntries_at {i : ℕ} :
    copyEntries (i + before.length : ℕ) displayName i (before ++ entry :: after) =
      before ++ displayEntry displayName :: after := by
  induction before generalizing i with
  | nil =>
    have hafter : copyEntries i displayName (i + 1) after = after :=
      copyEntries_other fun j _ => by omega
    simp [copyEntries, hafter]
  | cons e before ih =>
    have hne : (i : ℤ) ≠ (i + (e :: before).length : ℕ) := by simp; omega
    have hindex : i + (e :: before).length = i + 1 + before.length := by simp; omega
    rw [List.cons_append, copyEntries, if_neg hne, hindex, ih, List.cons_append]

theorem exists_last_display (h : ∃ entry ∈ env, beginsDisplay entry = true) :
    ∃ before entry after, env = before ++ entry :: after ∧ beginsDisplay entry = true ∧
      ∀ e ∈ after, beginsDisplay e = false := by
  induction env with
  | nil => simp at h
  | cons entry env ih =>
    by_cases htail : ∃ e ∈ env, beginsDisplay e = true
    · obtain ⟨before, e, after, rfl, he, hafter⟩ := ih htail
      exact ⟨entry :: before, e, after, rfl, he, hafter⟩
    · have hafter : ∀ e ∈ env, beginsDisplay e = false := by
        intro e he
        by_contra hne
        exact htail ⟨e, he, by simpa using hne⟩
      obtain ⟨e, he, hbegins⟩ := h
      obtain rfl | he := List.mem_cons.1 he
      · exact ⟨[], e, env, rfl, hbegins, hafter⟩
      · exact absurd ⟨e, he, hbegins⟩ htail

/- Nothing begins with DISPLAY: the copy is the environment. -/
theorem environment_copied (h : ∀ entry ∈ env, beginsDisplay entry = false) :
    spawnMakeEnvironmentForDisplay env displayName none = env := by
  simp only [spawnMakeEnvironmentForDisplay, Option.getD_none, scanDisplay_none h]
  exact copyEntries_other fun j _ => by omega

/- Something does: the last such entry is replaced, whatever it is. -/
theorem environment_replaced (hentry : beginsDisplay entry = true)
    (hafter : ∀ e ∈ after, beginsDisplay e = false) :
    spawnMakeEnvironmentForDisplay (before ++ entry :: after) displayName none =
      before ++ displayEntry displayName :: after := by
  have hindex : (scanDisplay 0 (-1) (before ++ entry :: after)).2 = (0 : ℕ) + before.length :=
    scanDisplay_last hentry hafter
  simp only [spawnMakeEnvironmentForDisplay, Option.getD_none, hindex]
  exact_mod_cast copyEntries_at (i := 0)

theorem filter_begins (h : ∀ e ∈ env, beginsDisplay e = false) :
    env.filter beginsDisplay = [] ∧ env.filter definesDisplay = [] ∧ env.filter (!definesDisplay ·) = env := by
  have hdefines : ∀ e ∈ env, definesDisplay e = false := by
    intro e he
    cases hd : definesDisplay e with
    | false => rfl
    | true => simpa [h e he] using begins_of_defines hd
  refine ⟨?_, ?_, ?_⟩
  · exact List.filter_eq_nil_iff.2 fun e he => by simp [h e he]
  · exact List.filter_eq_nil_iff.2 fun e he => by simp [hdefines e he]
  · exact List.filter_eq_self.2 fun e he => by simp [hdefines e he]

/-- Whatever the environment and the display, the one entry for DISPLAY names this display and
the rest is kept if and only if the environment has one such entry, and none that begins alike
after it. -/
theorem spawn_environment_iff (environ : List Text) (displayName : Text) (envp : Option (List Text)) :
    NamesDisplay displayName (envp.getD environ) (spawnMakeEnvironmentForDisplay environ displayName envp) ↔
      DefinedLast (envp.getD environ) := by
  have hsame : spawnMakeEnvironmentForDisplay environ displayName envp =
      spawnMakeEnvironmentForDisplay (envp.getD environ) displayName none := rfl
  rw [hsame]
  by_cases h : ∃ entry ∈ envp.getD environ, beginsDisplay entry = true
  · obtain ⟨before, entry, after, henv, hentry, hafter⟩ := exists_last_display h
    obtain ⟨hbegins, hnone, hkept⟩ := filter_begins hafter
    rw [henv, environment_replaced hentry hafter]
    simp only [NamesDisplay, DefinedLast, List.filter_append, List.filter_cons, hentry, hbegins, hnone, hkept,
      defines_displayEntry]
    cases hd : definesDisplay entry <;> simp [hd]
  · have hnone : ∀ entry ∈ envp.getD environ, beginsDisplay entry = false := by
      intro e he
      by_contra hne
      exact h ⟨e, he, by simpa using hne⟩
    obtain ⟨-, hdefines, -⟩ := filter_begins hnone
    rw [environment_copied hnone]
    simp [NamesDisplay, DefinedLast, hdefines]

/- With DISPLAY_X after it the entry for DISPLAY stays, and DISPLAY_X is gone. -/
theorem spawn_environment_lookalike :
    let env := ["DISPLAY=:0".toList, "DISPLAY_X=1".toList]
    ¬ NamesDisplay ":1".toList env (spawnMakeEnvironmentForDisplay env ":1".toList none) := by
  intro env h
  exact absurd h.1 (by decide +kernel)

/-! ### What the child finds -/

/- getenv: the value in the first entry with this name. -/
def getenv (name : Text) (env : List Text) : Option Text :=
  (env.find? (name ++ ['=']).isPrefixOf).map (·.drop (name.length + 1))

/- No entry is one for two names. -/
theorem not_defines_other {name entry : Text} (hname : name ≠ "DISPLAY".toList) (heq : '=' ∉ name)
    (h : (name ++ ['=']).isPrefixOf entry = true) : definesDisplay entry = false := by
  by_contra hd
  rw [Bool.not_eq_false, definesDisplay] at hd
  obtain ⟨value, rfl⟩ := List.isPrefixOf_iff_prefix.1 h
  obtain ⟨value', hvalue⟩ := List.isPrefixOf_iff_prefix.1 hd
  have hsplit : "DISPLAY".toList ++ '=' :: value' = name ++ '=' :: value := by
    rw [List.append_assoc, List.singleton_append] at hvalue
    exact hvalue
  have hno : '=' ∉ "DISPLAY".toList := by decide
  have hsame : name.length = "DISPLAY".toList.length := by
    have h₁ := congrArg (List.idxOf '=') hsplit
    simpa [List.idxOf_append, hno, heq, eq_comm] using h₁
  exact hname (List.append_inj hsplit hsame.symm).1.symm

/-- The child finds its display, and every other variable with its value. -/
theorem NamesDisplay.getenv {result : List Text} (h : NamesDisplay displayName env result) :
    getenv "DISPLAY".toList result = some displayName ∧
      ∀ name, name ≠ "DISPLAY".toList → '=' ∉ name →
        MateScreensaver.getenv name result = MateScreensaver.getenv name env := by
  obtain ⟨hdisplay, hothers⟩ := h
  constructor
  · have hfind : result.find? definesDisplay = some (displayEntry displayName) := by
      rw [← List.head?_filter, hdisplay, List.head?_cons]
    exact congrArg (Option.map (·.drop 8)) hfind
  · intro name hname heq
    have hkept : ∀ l : List Text, l.find? (name ++ ['=']).isPrefixOf =
        (l.filter (!definesDisplay ·)).find? (name ++ ['=']).isPrefixOf := by
      intro l
      rw [List.find?_filter]
      congr 1
      funext entry
      cases hp : (name ++ ['=']).isPrefixOf entry with
      | false => simp
      | true => simp [not_defines_other hname heq hp]
    rw [MateScreensaver.getenv, MateScreensaver.getenv, hkept result, hothers, ← hkept env]

end MateScreensaver
