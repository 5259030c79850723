import MateScreensaver.Floaters

/-!
What the window of the floaters saver shows: after every drawing all pictures where they are, although
only damaged pixels are painted again.
-/

namespace MateScreensaver
open Runs

namespace Floaters
open Popsquares

variable {n : ℤ} {f : ScreenSaverFloater} {c : Cache} {source : CachedSource} {decode : ℤ → Option CachedSource}
  {sources : List (ℤ × CachedSource)} {p : ℤ × ℤ}

namespace ScreenSaverFloater

/- The pictures are no larger than the size they are loaded for. -/
def Small (sources : List (ℤ × CachedSource)) : Prop :=
  ∀ size source, sources.lookup size = some source → (source.width : ℤ) ≤ size ∧ (source.height : ℤ) ≤ size

theorem covers_iff {r : Pixels.Rectangle} : covers r p = true ↔
    r.x ≤ p.1 ∧ p.1 < r.x + r.width ∧ r.y ≤ p.2 ∧ p.2 < r.y + r.height := decide_eq_true_iff

/- A picture is not seen outside of where it is painted. -/
theorem layer_eq_none (h : ∀ source, sources.lookup f.size = some source → covers (f.pictureRectangle source) p = false) :
    f.layer sources p = none := by
  rw [layer]
  split
  · rfl
  · next source hlookup => exact if_neg (by rw [h source hlookup]; exact Bool.false_ne_true)

/- The side of a picture along one axis is within that of the area. -/
theorem side_within {x : ℚ} {side size i : ℤ} (hside : side ≤ size) (hlow : toInt (x - 1 / 2 * side) ≤ i)
    (hhigh : i < toInt (x - 1 / 2 * side) + side) :
    toInt (x - 1 / 2 * size) ≤ i ∧ i < toInt (x - 1 / 2 * size) + (size + 2) := by
  have hcast : (side : ℚ) ≤ size := by exact_mod_cast hside
  have hmono : toInt (x - 1 / 2 * size) ≤ toInt (x - 1 / 2 * side) := toInt_mono (by linarith)
  obtain ⟨hside₁, -⟩ := toInt_near (x - 1 / 2 * side)
  obtain ⟨-, hsize₂⟩ := toInt_near (x - 1 / 2 * size)
  have hlt : ((toInt (x - 1 / 2 * side) + side : ℤ) : ℚ) < ((toInt (x - 1 / 2 * size) + (size + 2) : ℤ) : ℚ) := by
    push_cast
    linarith
  have hend : toInt (x - 1 / 2 * side) + side < toInt (x - 1 / 2 * size) + (size + 2) := by exact_mod_cast hlt
  omega

theorem area_covers (hsmall : (source.width : ℤ) ≤ f.size ∧ (source.height : ℤ) ≤ f.size)
    (h : covers (f.pictureRectangle source) p = true) : covers (f.area false) p = true := by
  obtain ⟨hx, hx', hy, hy'⟩ := covers_iff.1 h
  obtain ⟨hleft, hright⟩ := side_within hsmall.1 hx hx'
  obtain ⟨htop, hbottom⟩ := side_within hsmall.2 hy hy'
  exact covers_iff.2 ⟨hleft, hright, htop, hbottom⟩

theorem bounds_cover (h : covers (f.pictureRectangle source) p = true) : covers (f.drawn false source).bounds p = true := by
  obtain ⟨hx, hx', hy, hy'⟩ := covers_iff.1 h
  simp only [pictureRectangle] at hx hx' hy hy'
  apply covers_iff.2
  simp only [drawn, Bool.false_eq_true, false_and, if_false]
  omega

theorem compareFloaters_iff {a b : ScreenSaverFloater} : a.compareFloaters b ≤ 0 ↔ a.scale ≤ b.scale := by
  rw [compareFloaters]
  split
  · next h => simp [h]
  · next h =>
    split
    · simp [not_lt.1 h]
    · simp [not_lt.1 h]

end ScreenSaverFloater

variable {d : Cache} {fs : List ScreenSaverFloater} {size : ℤ} {found : Option CachedSource} {rotations : Bool}

/- What is cached stays. -/
theorem Cache.Sourced.keeps (h : Cache.Sourced decode c size d found) (hlookup : c.sources.lookup n = some source) :
    d.sources.lookup n = some source := by
  cases h with
  | cached => exact hlookup
  | failed => exact hlookup
  | loaded hnone hdecode =>
    have hne : n ≠ size := by
      intro heq
      rw [heq, hnone] at hlookup
      cases hlookup
    rw [List.lookup_cons, beq_false_of_ne hne]
    exact hlookup

theorem Cache.Sourced.there (h : Cache.Sourced decode c size d (some source)) : d.sources.lookup size = some source := by
  cases h with
  | cached hlookup => exact hlookup
  | loaded => exact List.lookup_cons_self

theorem Cache.Sourced.small (h : Cache.Sourced decode c size d found) (hsmall : ScreenSaverFloater.Small c.sources)
    (hdecode : ∀ size source, decode size = some source → (source.width : ℤ) ≤ size ∧ (source.height : ℤ) ≤ size) :
    ScreenSaverFloater.Small d.sources := by
  cases h with
  | cached => exact hsmall
  | failed => exact hsmall
  | loaded hnone hsource =>
    intro n source hlookup
    rw [List.lookup_cons] at hlookup
    split at hlookup
    · next heq =>
      cases hlookup
      rw [eq_of_beq heq]
      exact hdecode _ _ hsource
    · exact hsmall n source hlookup

/-- What the loop over the floaters does when it comes to its end. -/
structure Draws (c : Cache) (fs : List ScreenSaverFloater) (r : Drawn) : Prop where
  keeps : ∀ n source, c.sources.lookup n = some source → r.cache.sources.lookup n = some source
  drawn : ∀ g ∈ r.done, ∃ f ∈ fs, ∃ source, r.cache.sources.lookup f.size = some source ∧ g = f.drawn false source
  same : r.rest = [] → ∀ sources p, Damage.paint (ScreenSaverFloater.layer sources) r.done p =
    Damage.paint (ScreenSaverFloater.layer sources) fs p
  scales : r.rest = [] → r.done.map ScreenSaverFloater.scale = fs.map ScreenSaverFloater.scale

theorem drawFloaters_draws (decode : ℤ → Option CachedSource) (c : Cache) (fs : List ScreenSaverFloater) :
    Draws c fs (drawFloaters false decode c fs) := by
  induction fs generalizing c with
  | nil =>
    refine ⟨fun _ _ h => h, ?_, fun _ _ _ => rfl, fun _ => rfl⟩
    intro g hg
    cases hg
  | cons f fs ih =>
    have hsourced := c.sourced decode f.size
    rw [drawFloaters]
    cases hsource : c.source decode f.size with
    | mk d found =>
      rw [hsource] at hsourced
      cases found with
      | none =>
        refine ⟨fun n source => hsourced.keeps, ?_, ?_, ?_⟩
        · intro g hg
          cases hg
        · intro hrest
          cases hrest
        · intro hrest
          cases hrest
      | some source =>
        obtain ⟨hkeeps, hdrawn, hsame, hscales⟩ := ih d
        refine ⟨fun n source h => hkeeps n source (hsourced.keeps h), ?_, ?_, ?_⟩
        · intro g hg
          cases hg with
          | head => exact ⟨f, List.mem_cons_self, source, hkeeps _ _ hsourced.there, rfl⟩
          | tail _ hg =>
            obtain ⟨f', hf', hdone⟩ := hdrawn g hg
            exact ⟨f', List.mem_cons_of_mem _ hf', hdone⟩
        · intro hrest sources p
          have htail := hsame hrest sources p
          have hhead : (f.drawn false source).layer sources p = f.layer sources p := rfl
          rw [Damage.paint, Damage.paint] at htail ⊢
          rw [List.filterMap_cons, List.filterMap_cons, hhead, htail]
        · intro hrest
          exact congrArg (f.scale :: ·) (hscales hrest)

theorem drawFloaters_small {decode : ℤ → Option CachedSource} (hsmall : ScreenSaverFloater.Small c.sources)
    (hdecode : ∀ size source, decode size = some source → (source.width : ℤ) ≤ size ∧ (source.height : ℤ) ≤ size) :
    ScreenSaverFloater.Small (drawFloaters rotations decode c fs).cache.sources := by
  induction fs generalizing c with
  | nil => exact hsmall
  | cons f fs ih =>
    have hsourced := (c.sourced decode f.size).small hsmall hdecode
    rw [drawFloaters]
    cases hsource : c.source decode f.size with
    | mk d found =>
      rw [hsource] at hsourced
      cases found with
      | none => exact hsourced
      | some source => exact ih hsourced

namespace ScreenSaver

variable {s t : ScreenSaver} {e : Event}

/- All floaters are seen where they are. -/
structure Shown (s : ScreenSaver) : Prop where
  screen : s.screen = s.picture
  sorted : (s.floaters.map ScreenSaverFloater.scale).Pairwise (· ≤ ·)
  drawn : ∀ f ∈ s.floaters, ∃ source, s.cachedSources.sources.lookup f.size = some source ∧
    f.bounds = (f.drawn false source).bounds

/- Where nothing is to be painted again nothing is seen, and nothing is going to be. -/
structure Awaiting (s : ScreenSaver) : Prop where
  bounds : ∀ f ∈ s.floaters, 0 < f.bounds.width ∧ 0 < f.bounds.height
  blank : ∀ p, s.damage p = false → s.screen p = []
  apart : ∀ p, s.damage p = false → ∀ f ∈ s.floaters, covers (f.area false) p = false

/- The window while the saver runs; before the first drawing there are no floaters. -/
structure Painted (s : ScreenSaver) : Prop where
  rotations : s.shouldDoRotations = false
  small : ScreenSaverFloater.Small s.cachedSources.sources
  phase : s.quit = false → s.floaters = [] ∨ s.Shown ∨ s.Awaiting

/- GTK has a window drawn whole at first, and the picture is no taller than wide. -/
def Usual (s : ScreenSaver) : Event → Prop
  | .draw exposed decode _ => (s.floaters = [] → ∀ p, exposed p = true) ∧
    ∀ size source, decode size = some source → (source.width : ℤ) ≤ size ∧ (source.height : ℤ) ≤ size
  | _ => True

theorem mem_sortedFloaters {draws : ℕ → CreateDraws} (hsome : s.floaters ≠ []) {f : ScreenSaverFloater} :
    f ∈ s.sortedFloaters draws ↔ f ∈ s.floaters := by
  have hempty : s.floaters.isEmpty = false := by
    rw [List.isEmpty_eq_false_iff]
    exact hsome
  rw [sortedFloaters, hempty, if_neg Bool.false_ne_true, List.mem_insertionSort]

theorem Shown.sortedFloaters_eq (h : s.Shown) (hsome : s.floaters ≠ []) (draws : ℕ → CreateDraws) :
    s.sortedFloaters draws = s.floaters := by
  have hempty : s.floaters.isEmpty = false := by
    rw [List.isEmpty_eq_false_iff]
    exact hsome
  rw [sortedFloaters, hempty, if_neg Bool.false_ne_true]
  apply List.Pairwise.insertionSort_eq
  have hsorted := List.pairwise_map.1 h.sorted
  exact hsorted.imp fun hle => ScreenSaverFloater.compareFloaters_iff.2 hle

theorem insertionSort_scales (fs : List ScreenSaverFloater) :
    ((fs.insertionSort fun a b => a.compareFloaters b ≤ 0).map ScreenSaverFloater.scale).Pairwise (· ≤ ·) := by
  have hcompare : ∀ a ∈ fs, ∀ b ∈ fs, a.compareFloaters b ≤ 0 ↔ a.scale ≤ b.scale :=
    fun a _ b _ => ScreenSaverFloater.compareFloaters_iff
  rw [List.map_insertionSort _ (· ≤ ·) _ _ hcompare]
  exact List.pairwise_insertionSort _ _

/- After a drawing everything is seen, however little of it was painted again. -/
theorem Painted.onDraw {exposed : ℤ × ℤ → Bool} {draws : ℕ → CreateDraws} (h : s.Painted) (hquit : s.quit = false)
    (hwhole : s.floaters = [] → ∀ p, exposed p = true)
    (hdecode : ∀ size source, decode size = some source → (source.width : ℤ) ≤ size ∧ (source.height : ℤ) ≤ size)
    (ht : (s.onDraw exposed decode draws).quit = false) : (s.onDraw exposed decode draws).Shown := by
  have hdraws : Draws s.cachedSources (s.sortedFloaters draws) (s.drawnBy decode draws) := by
    rw [drawnBy, h.rotations]
    exact drawFloaters_draws decode s.cachedSources (s.sortedFloaters draws)
  have hsmall : ScreenSaverFloater.Small (s.drawnBy decode draws).cache.sources := drawFloaters_small h.small hdecode
  have hrest : (s.drawnBy decode draws).rest = [] := by
    have hempty : (!(s.drawnBy decode draws).rest.isEmpty) = false := ht
    rw [Bool.not_eq_false'] at hempty
    exact List.isEmpty_iff.1 hempty
  have hfloaters : (s.onDraw exposed decode draws).floaters = (s.drawnBy decode draws).done := by
    rw [ScreenSaver.onDraw]
    dsimp only
    rw [hrest, List.append_nil]
  refine ⟨?_, ?_, ?_⟩
  · rw [picture, hfloaters]
    apply Damage.repaint_eq
    intro p hp
    rw [Bool.or_eq_false_iff] at hp
    rcases h.phase hquit with hnone | hshown | hawaiting
    · rw [hwhole hnone p] at hp
      cases hp.2
    · by_cases hsome : s.floaters = []
      · rw [hwhole hsome p] at hp
        cases hp.2
      · rw [hdraws.same hrest, hshown.sortedFloaters_eq hsome, hshown.screen, picture]
        apply Damage.paint_congr
        intro f hf
        obtain ⟨source, hlookup, -⟩ := hshown.drawn f hf
        rw [ScreenSaverFloater.layer, ScreenSaverFloater.layer, hlookup, hdraws.keeps _ _ hlookup]
    · by_cases hsome : s.floaters = []
      · rw [hwhole hsome p] at hp
        cases hp.2
      · rw [hawaiting.blank p hp.1, Damage.paint_eq_nil]
        intro g hg
        obtain ⟨f, hf, source, hlookup, rfl⟩ := hdraws.drawn g hg
        apply ScreenSaverFloater.layer_eq_none
        intro source' hsource'
        rw [← Bool.not_eq_true]
        intro hcovers
        have hapart := hawaiting.apart p hp.1 f ((mem_sortedFloaters hsome).1 hf)
        have harea := ScreenSaverFloater.area_covers (f := f) (hsmall _ _ hsource') hcovers
        rw [hapart] at harea
        cases harea
  · rw [hfloaters, hdraws.scales hrest]
    exact insertionSort_scales _
  · intro g hg
    rw [hfloaters] at hg
    obtain ⟨f, hf, source, hlookup, rfl⟩ := hdraws.drawn g hg
    exact ⟨source, hlookup, rfl⟩

theorem updateState_bounds (canvas : Rectangle) (ratio time : ℚ) (d : UpdateDraws) (f : ScreenSaverFloater) :
    (f.updateState canvas rotations ratio time d).bounds = f.bounds := by
  rw [ScreenSaverFloater.updateState]
  split
  · rw [ScreenSaverFloater.followPath]
    split <;> rfl
  · rw [ScreenSaverFloater.followPath]
    split <;> rfl

/- An update has everything painted again where a floater was or comes to be. -/
theorem Painted.updateState {now : ℤ} {draws : ℕ → UpdateDraws} (h : s.Painted) (hquit : s.quit = false) :
    (s.updateState now draws).floaters = [] ∨ (s.updateState now draws).Awaiting := by
  by_cases hsome : s.floaters = []
  · left
    rw [ScreenSaver.updateState]
    dsimp only
    rw [hsome]
    rfl
  · right
    have hbefore : ∀ f ∈ (s.updateState now draws).floaters, ∃ g ∈ s.floaters, f.bounds = g.bounds := by
      intro f hf
      obtain ⟨i, hi, rfl⟩ := List.mem_mapIdx.1 hf
      exact ⟨s.floaters[i], List.getElem_mem hi, updateState_bounds _ _ _ _ _⟩
    have hafter : ∀ g ∈ s.floaters, ∃ f ∈ (s.updateState now draws).floaters, f.bounds = g.bounds := by
      intro g hg
      obtain ⟨i, hi, rfl⟩ := List.getElem_of_mem hg
      exact ⟨_, List.mem_mapIdx.2 ⟨i, hi, rfl⟩, updateState_bounds _ _ _ _ _⟩
    have hpositive : ∀ g ∈ s.floaters, 0 < g.bounds.width ∧ 0 < g.bounds.height := by
      intro g hg
      rcases h.phase hquit with hnone | hshown | hawaiting
      · exact absurd hnone hsome
      · obtain ⟨source, -, hbounds⟩ := hshown.drawn g hg
        rw [hbounds]
        simp only [ScreenSaverFloater.drawn, Bool.false_eq_true, false_and, if_false]
        omega
      · exact hawaiting.bounds g hg
    have hdamage : ∀ p, (s.updateState now draws).damage p = false → s.damage p = false ∧
        ∀ f ∈ (s.updateState now draws).floaters, covers f.bounds p = false ∧ covers (f.area false) p = false := by
      intro p hp
      obtain ⟨hold, hany⟩ := Bool.or_eq_false_iff.1 hp
      refine ⟨hold, fun f hf => ?_⟩
      have hnone := List.any_eq_false.1 hany f hf
      obtain ⟨g, hg, hbounds⟩ := hbefore f hf
      have hpos := hpositive g hg
      rw [ScreenSaverFloater.damages, h.rotations, hbounds] at hnone
      simp only [hpos, and_self, true_and, decide_eq_true_eq, not_or, Bool.not_eq_true] at hnone
      rw [hbounds]
      exact ⟨hnone.1, hnone.2.1⟩
    refine ⟨?_, ?_, ?_⟩
    · intro f hf
      obtain ⟨g, hg, hbounds⟩ := hbefore f hf
      rw [hbounds]
      exact hpositive g hg
    · intro p hp
      obtain ⟨hold, hclear⟩ := hdamage p hp
      rcases h.phase hquit with hnone | hshown | hawaiting
      · exact absurd hnone hsome
      · have hscreen : (s.updateState now draws).screen p = s.picture p := congrFun hshown.screen p
        rw [hscreen, picture, Damage.paint_eq_nil]
        intro g hg
        apply ScreenSaverFloater.layer_eq_none
        intro source hlookup
        rw [← Bool.not_eq_true]
        intro hcovers
        obtain ⟨source', hlookup', hbounds⟩ := hshown.drawn g hg
        obtain ⟨f, hf, hsame⟩ := hafter g hg
        obtain rfl := Option.some.inj (hlookup.symm.trans hlookup')
        have hcovered := ScreenSaverFloater.bounds_cover hcovers
        rw [← hbounds, ← hsame, (hclear f hf).1] at hcovered
        cases hcovered
      · exact hawaiting.blank p hold
    · intro p hp f hf
      exact ((hdamage p hp).2 f hf).2

theorem Painted.still (h : s.Painted) (hstill : Still s t) : t.Painted := by
  obtain ⟨hfloaters, hcached, hdamage, hscreen, hquit, hrotations, -⟩ := hstill
  refine ⟨hrotations.trans h.rotations, hcached ▸ h.small, fun hq => ?_⟩
  rcases h.phase (hquit.symm.trans hq) with hnone | hshown | hawaiting
  · exact .inl (hfloaters.trans hnone)
  · refine .inr (.inl ⟨?_, ?_, ?_⟩)
    · rw [hscreen, hshown.screen, picture, picture, hfloaters, hcached]
    · rw [hfloaters]
      exact hshown.sorted
    · rw [hfloaters, hcached]
      exact hshown.drawn
  · refine .inr (.inr ⟨?_, ?_, ?_⟩)
    · rw [hfloaters]
      exact hawaiting.bounds
    · rw [hdamage, hscreen]
      exact hawaiting.blank
    · rw [hdamage, hfloaters]
      exact hawaiting.apart

theorem Painted.step (h : s.Painted) (hn : s.next e = some t) (husual : s.Usual e) :
    (∀ exposed decode draws, e = .draw exposed decode draws → t.quit = false → t.Shown) ∧ t.Painted := by
  obtain ⟨hquit, hcases⟩ := next_cases hn
  rcases hcases with ⟨exposed, decode, draws, rfl, rfl⟩ | ⟨now, draws, rfl, rfl⟩ | ⟨hstill, hother, -⟩
  · have hshown : (s.onDraw exposed decode draws).quit = false → (s.onDraw exposed decode draws).Shown :=
      h.onDraw hquit husual.1 husual.2
    exact ⟨fun _ _ _ _ => hshown, h.rotations, drawFloaters_small h.small husual.2, fun hq => .inr (.inl (hshown hq))⟩
  · refine ⟨?_, h.rotations, h.small, fun _ => ?_⟩
    · intro exposed decode draws he
      cases he
    · have hphase : (s.updateState now draws).floaters = [] ∨ (s.updateState now draws).Awaiting := h.updateState hquit
      cases hphase with
      | inl hnone => exact .inl hnone
      | inr hawaiting => exact .inr (.inr hawaiting)
  · exact ⟨fun exposed decode draws he => absurd he (hother exposed decode draws), h.still hstill⟩

/-- As long as the picture is no taller than wide and is not rotated: after every drawing of every run the
window shows exactly the floaters where they are then, the larger ones over the smaller ones, although
only the pixels that updates or the X server have asked for are painted again. -/
theorem drawings_whole (hinit : system.init s) (hrotations : s.shouldDoRotations = false) {es : List Event}
    (husual : system.Meets Usual s es) :
    system.Each (fun _ e t => ∀ exposed decode draws, e = .draw exposed decode draws → t.quit = false →
      t.screen = t.picture ∧ (t.floaters.map ScreenSaverFloater.scale).Pairwise (· ≤ ·)) s es := by
  have hstart : s.Painted := by
    obtain ⟨now, canvas, count, rotations, paths, rfl⟩ := hinit
    refine ⟨hrotations, ?_, fun _ => .inl rfl⟩
    intro size source hlookup
    cases hlookup
  apply System.each_of_meets (I := Painted) (C := Usual) _ hstart husual
  intro x e y hx hn he
  obtain ⟨hshown, hy⟩ := hx.step hn he
  refine ⟨fun exposed decode draws hdraw hquit => ?_, hy⟩
  obtain ⟨hscreen, hsorted, -⟩ := hshown exposed decode draws hdraw hquit
  exact ⟨hscreen, hsorted⟩

theorem squareDecode_small (size : ℤ) (source : CachedSource) (h : squareDecode size = some source) :
    (source.width : ℤ) ≤ size ∧ (source.height : ℤ) ≤ size := by
  rw [squareDecode] at h
  split at h
  · cases h
    simp only
    omega
  · cases h

/- Nothing is exposed again, so that only what has moved is painted. -/
def nextDraw : Event := .draw (fun _ => false) squareDecode fun _ => ⟨noDraw, noDraw, noDraw⟩

theorem drawings_whole_small : ∃ u t, system.run smallSaver [firstDraw, secondsLater 1, secondsLater 2] = some u ∧
    system.next u nextDraw = some t ∧ t.screen = t.picture := by
  have hfloaters : ((system.run smallSaver [firstDraw, secondsLater 1, secondsLater 2]).map fun u => u.floaters.isEmpty) =
      some false := by
    decide +kernel
  have hnext : ((system.run smallSaver [firstDraw, secondsLater 1, secondsLater 2]).bind fun u =>
      (system.next u nextDraw).map ScreenSaver.quit) = some false := by
    decide +kernel
  obtain ⟨u, hu, hsome⟩ := Option.map_eq_some_iff.1 hfloaters
  rw [hu, Option.bind_some] at hnext
  obtain ⟨t, ht, hquit⟩ := Option.map_eq_some_iff.1 hnext
  have husual : system.Meets Usual smallSaver ([firstDraw, secondsLater 1, secondsLater 2] ++ [nextDraw]) := by
    intro t₁ h₁
    refine ⟨⟨fun _ _ => rfl, squareDecode_small⟩, fun t₂ h₂ => ⟨trivial, fun t₃ h₃ => ⟨trivial, fun t₄ h₄ => ⟨?_, trivial⟩⟩⟩⟩
    have hrun : system.run smallSaver [firstDraw, secondsLater 1, secondsLater 2] = some t₃ := by
      rw [System.run, h₁, Option.bind_some, System.run, h₂, Option.bind_some, System.run, h₃, Option.bind_some, System.run]
    obtain rfl := Option.some.inj (hu.symm.trans hrun)
    refine ⟨fun hnone => ?_, squareDecode_small⟩
    rw [hnone] at hsome
    cases hsome
  have heach := (drawings_whole ⟨0, _, 1, false, false, rfl⟩ rfl husual).after hu
  exact ⟨u, t, hu, ht, ((heach t ht).1 _ _ _ rfl hquit).1⟩

end ScreenSaver

end Floaters
end MateScreensaver
