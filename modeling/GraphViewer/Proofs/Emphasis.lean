import Mathlib.Algebra.Order.Floor.Ring
import GraphViewer.Proofs.Operations
import GraphViewer.Proofs.Remembered
import GraphViewer.Proofs.Styled
import GraphViewer.Proofs.ZoomLimits
/-
What a frame brings out. Of the links that are painted, those that touch the node in focus are drawn twice as wide
and in another colour, and two discs run along them half a lap apart; without such a node it is the link under
the pointer. Of the nodes that are painted, those that are neither in focus nor joined to what is are gray. Every
node has its label, and what is hidden leaves no stroke.
-/

namespace GraphViewer

open Scalar (nat zero one)
open Narrowing (widen)

/-! ## Focus -/

/-- The interaction after some operations, with the snapshot that it took over last, in a theme. -/
def Attention.scene (a : Attention) (theme : Theme) : Scene :=
  ⟨a.snapshot, a.interaction, theme⟩

namespace Scene

/-- An edge is to be emphasized: it touches the node in focus, or it is under the pointer while there is none. -/
def Emphasizes (c : Scene) (i : EdgeIndex) : Prop :=
  match c.interaction.focus.node? with
  | some id => ∃ e, c.snapshot.edges[i]? = some e ∧ (e.source = id ∨ e.target = id)
  | none => c.interaction.hoveredLink = some i

/-- A node is to be out of focus: another one is in focus, and no edge with both ends joins the two. -/
def Dims (c : Scene) (n : Node) : Prop :=
  ∃ id, c.interaction.focus.node? = some id ∧ n.id ≠ id ∧
    ∀ e ∈ c.snapshot.edges, c.snapshot.isResolved e = true → e.source = id ∨ e.target = id →
      e.source ≠ n.id ∧ e.target ≠ n.id

/-- What is highlighted follows from the focus. -/
def Lit (c : Scene) : Prop :=
  c.interaction.highlight c.snapshot = c.interaction

end Scene

/-- Whatever is done to an interaction, what is highlighted follows from the focus. -/
theorem Attention.highlight_perform {a : Attention} (lit : a.interaction.highlight a.snapshot = a.interaction)
    (o : Operation) :
    (a.perform o).1.interaction.highlight (a.perform o).1.snapshot = (a.perform o).1.interaction := by
  cases o with
  | select id => exact Interaction.highlight_select id
  | click id => exact Interaction.highlight_select _
  | hoverNode id => exact Interaction.highlight_hover lit _
  | hoverLink edge => exact Interaction.highlight_hover lit _
  | toggleType key =>
    show (a.interaction.toggleType key).highlight a.snapshot = a.interaction.toggleType key
    rw [Interaction.highlight_toggleType, lit]
  | adopt snapshot groups => exact (Interaction.settled_adopt a.interaction snapshot groups).highlighted

theorem Attention.lit_after (first : Snapshot) (operations : List Operation) (theme : Theme) :
    ((Attention.mk first .initial).after operations |>.scene theme).Lit := by
  have kept (a : Attention) (lit : a.interaction.highlight a.snapshot = a.interaction) :
      (a.after operations).interaction.highlight (a.after operations).snapshot =
        (a.after operations).interaction := by
    induction operations generalizing a with
    | nil => exact lit
    | cons o rest ih => exact ih _ (a.highlight_perform lit o)
  exact kept ⟨first, .initial⟩ rfl

namespace Scene

variable {c : Scene}

theorem resolved_of_showsLink {i : EdgeIndex} (shown : c.showsLink i = true) :
    ∃ e, c.snapshot.edges[i]? = some e ∧ c.snapshot.isResolved e = true := by
  obtain ⟨e, present, shown⟩ := (Option.any_eq_true _ _).1 shown
  exact ⟨e, present, Interaction.isResolved_of_showsLink shown⟩

/-- A link that is shown is highlighted just if it is to be emphasized. -/
theorem highlightsLink_iff (lit : c.Lit) {i : EdgeIndex} (shown : c.showsLink i = true) :
    c.interaction.highlightsLink i = true ↔ c.Emphasizes i := by
  rw [Interaction.highlightsLink, List.contains_iff_mem]
  unfold Emphasizes
  split
  · rename_i id focused
    rw [Interaction.mem_highlightedLinks_iff lit focused]
    constructor
    · rintro ⟨e, present, _, touches⟩
      exact ⟨e, present, touches⟩
    · rintro ⟨e, present, touches⟩
      obtain ⟨e', present', resolved⟩ := resolved_of_showsLink shown
      cases present.symm.trans present'
      exact ⟨e, present, resolved, touches⟩
  · rename_i free
    rw [(Interaction.highlights_of_unfocused lit free).2, Option.mem_toList]

/-- Nodes are muted just if they are to be out of focus; a link under the pointer mutes none. -/
theorem mutes_iff (lit : c.Lit) {n : Node} : c.interaction.mutes n = true ↔ c.Dims n := by
  have muted : c.interaction.mutes n = true ↔
      c.interaction.highlightedNodes ≠ [] ∧ n.id ∉ c.interaction.highlightedNodes := by
    simp [Interaction.mutes]
  rw [muted]
  cases focused : c.interaction.focus.node? with
  | none =>
    refine iff_of_false (fun muted => ?_) ?_
    · exact muted.1 (Interaction.highlights_of_unfocused lit focused).1
    · rintro ⟨id, other, _⟩
      cases focused.symm.trans other
  | some id =>
    have among {other : NodeId} : other ∈ c.interaction.highlightedNodes ↔ _ :=
      Interaction.mem_highlightedNodes_iff lit focused
    have present : c.interaction.highlightedNodes ≠ [] := List.ne_nil_of_mem (among.2 (.inl rfl))
    rw [and_iff_right present, among, not_or]
    constructor
    · rintro ⟨distinct, unjoined⟩
      refine ⟨id, focused, distinct, fun e member resolved touches => ?_⟩
      refine ⟨fun source => ?_, fun target => ?_⟩
      · rcases touches with same | same
        · exact distinct (source.symm.trans same)
        · exact unjoined ⟨e, member, resolved, .inr ⟨same, source⟩⟩
      · rcases touches with same | same
        · exact unjoined ⟨e, member, resolved, .inl ⟨same, target⟩⟩
        · exact distinct (target.symm.trans same)
    · rintro ⟨other, focused', distinct, apart⟩
      cases focused.symm.trans focused'
      refine ⟨distinct, ?_⟩
      rintro ⟨e, member, resolved, ⟨source, target⟩ | ⟨target, source⟩⟩
      · exact (apart e member resolved (.inl source)).2 target
      · exact (apart e member resolved (.inr target)).1 source

end Scene

/-! ## Colours -/

theorem palette_read : ∀ colour ∈ palette, ∃ red green blue,
    ColourReading.ofText colour = .channels red green blue := by
  simp only [palette, List.forall_mem_cons]
  exact ⟨⟨_, _, _, rfl⟩, ⟨_, _, _, rfl⟩, ⟨_, _, _, rfl⟩, ⟨_, _, _, rfl⟩, ⟨_, _, _, rfl⟩, ⟨_, _, _, rfl⟩,
    ⟨_, _, _, rfl⟩, ⟨_, _, _, rfl⟩, ⟨_, _, _, rfl⟩, ⟨_, _, _, rfl⟩, nofun⟩

theorem EntityKey.colour_mem (key : EntityKey) : key.colour ∈ palette := by
  have inside := Nat.mod_lt (fnv1a (Text.utf8 (key.getD ""))).toNat (show 0 < palette.length by decide)
  unfold colour
  rw [List.getElem?_eq_getElem inside]
  exact List.getElem_mem inside

/-- The colour of a type out of focus is a shade of gray, and no colour that it has in focus. -/
theorem EntityKey.muted (key : EntityKey) (theme : Theme) :
    ∃ v, mutedColour? key.colour theme = some (grayText v) ∧ grayText v ≠ key.colour := by
  obtain ⟨red, green, blue, read⟩ := palette_read _ key.colour_mem
  refine ⟨grayOf red green blue theme, by rw [mutedColour?, read], fun same => ?_⟩
  have coloured : ∀ colour ∈ palette, colour.toList.head? = some '#' := by decide
  have hash := coloured _ key.colour_mem
  rw [← same] at hash
  simp [grayText] at hash

/-- A node that is to be out of focus is gray, and any other has the colour of its type. -/
theorem Scene.nodeFill_iff {c : Scene} (lit : c.Lit) (n : Node) :
    (mutedColour? n.entityType?.colour c.theme = some (c.interaction.nodeFill n c.theme) ↔ c.Dims n) ∧
      (c.interaction.nodeFill n c.theme = n.entityType?.colour ↔ ¬ c.Dims n) := by
  obtain ⟨v, gray, distinct⟩ := EntityKey.muted n.entityType? c.theme
  rw [gray, Option.some_inj, ← mutes_iff lit, Interaction.nodeFill, gray]
  cases c.interaction.mutes n <;> simp [distinct]

/-! ## Labels -/

/-- A label is never smaller than one. -/
theorem one_le_size {W : Type} [Scalar W] (measure : Nat → W) (radius : W) (limit : Nat) :
    1 ≤ (fitBelow measure radius limit).size := by
  induction limit with
  | zero => exact le_rfl
  | succ size ih =>
    unfold fitBelow
    dsimp only
    split
    · exact ih
    · exact Nat.le_add_left 1 size

/-! ## What flows -/

theorem Scalar.fract_real {t : ℝ} (passed : 0 ≤ t) : Scalar.fract t = Int.fract t := by
  have whole : Scalar.trunc t = (⌊t⌋ : ℝ) := if_neg (not_lt.2 passed)
  rw [Scalar.fract, whole]
  rfl

/-- Half a lap on, and round again if need be. -/
theorem fract_half (t : ℝ) : |Int.fract (t + 1 / 2) - Int.fract t| = 1 / 2 := by
  have begun := Int.fract_nonneg t
  have less := Int.fract_lt_one t
  have whole := Int.self_sub_fract t
  by_cases early : Int.fract t < 1 / 2
  · have ahead : Int.fract (t + 1 / 2) = Int.fract t + 1 / 2 :=
      Int.fract_eq_iff.2 ⟨by linarith, by linarith, ⌊t⌋, by linarith⟩
    rw [ahead, add_sub_cancel_left, abs_of_pos (by norm_num)]
  · have behind : Int.fract (t + 1 / 2) = Int.fract t - 1 / 2 := by
      refine Int.fract_eq_iff.2 ⟨by linarith, by linarith, ⌊t⌋ + 1, ?_⟩
      push_cast
      linarith
    rw [behind, sub_sub_cancel_left, abs_neg, abs_of_pos (by norm_num)]

namespace Layout

variable {N : Type} {l next : Layout ℝ N} {c : Change ℝ N}

section

variable [Scalar N] [Narrowing ℝ N]

/-- The time for what flows only goes forward, and only time moves it. -/
theorem flow_undergo (forward : c.Forward) (step : l.undergo? c = some next) : l.flow ≤ next.flow := by
  cases c with
  | tick dt =>
    obtain ⟨physics, _, same⟩ := Option.bind_eq_some_iff.1 step
    cases same
    exact le_add_of_nonneg_right forward
  | down p t =>
    cases step
    unfold pointerDown
    split <;> exact le_rfl
  | move p t =>
    cases step
    unfold pointerMove
    split
    · unfold dragTo
      dsimp only
      split <;> exact le_rfl
    · exact le_rfl
    · dsimp only
      split <;> exact le_rfl
  | load _ | up | leave | wheel _ _ | obey _ | resize _ _ =>
    cases step
    exact le_rfl

theorem flow_after {start : Layout ℝ N} {changes : List (Change ℝ N)} (forward : ∀ c ∈ changes, c.Forward)
    (run : start.after? changes = some l) : start.flow ≤ l.flow :=
  after?_keeps (P := fun l => start.flow ≤ l.flow) le_rfl
    (fun member earlier step => earlier.trans (flow_undergo (forward _ member) step)) run

end

/-- Two discs run along a link, half a lap apart. -/
theorem flowPoints_eq (flowing : 0 ≤ l.flow) (a b : Point ℝ) : l.flowPoints a b =
    [pointAlong a b (Int.fract l.flow), pointAlong a b (Int.fract (l.flow + 1 / 2))] := by
  have along (t : ℝ) : (⟨a.x + (b.x - a.x) * t, a.y + (b.y - a.y) * t⟩ : Point ℝ) = pointAlong a b t := by
    rw [pointAlong, mul_comm, mul_comm (b.y - a.y)]
  have phases : (List.range flowParticles).map (fun i => Scalar.fract (l.flow + nat i / nat flowParticles)) =
      [Int.fract l.flow, Int.fract (l.flow + 1 / 2)] := by
    have later : 0 ≤ l.flow + 1 / 2 := by positivity
    rw [← Scalar.fract_real flowing, ← Scalar.fract_real later]
    simp [flowParticles, List.range_succ]
  have points : l.flowPoints a b =
      ((List.range flowParticles).map fun i => Scalar.fract (l.flow + nat i / nat flowParticles)).map
        (pointAlong a b) := by
    rw [List.map_map]
    exact List.map_congr_left fun i _ => along _
  rw [points, phases]
  rfl

/-! ## Frames -/

/-- A link that is brought out: a line of double width in a colour of its own, and two discs on it, half a lap
apart. -/
def Emphasized (l : Layout ℝ N) (theme : Theme) (s : Line ℝ) (looks : List (Look ℝ)) : Prop :=
  ∃ p ∈ Set.Ico (0 : ℝ) 1, ∃ q ∈ Set.Ico (0 : ℝ) 1, |q - p| = 1 / 2 ∧ looks =
    [.outlined (.line s.start s.finish) (theme.linkColour true) (2 / l.camera.zoom),
      .filled (.disc (pointAlong s.start s.finish p) (3 / 2)) (theme.linkColour true),
      .filled (.disc (pointAlong s.start s.finish q) (3 / 2)) (theme.linkColour true)]

/-- A link that is not: a line of single width, and nothing else. -/
def Plain (l : Layout ℝ N) (theme : Theme) (s : Line ℝ) (looks : List (Look ℝ)) : Prop :=
  looks = [.outlined (.line s.start s.finish) (theme.linkColour false) (1 / l.camera.zoom)]

theorem not_plain_of_emphasized {theme : Theme} {s : Line ℝ} {looks : List (Look ℝ)}
    (emphasized : l.Emphasized theme s looks) : ¬ l.Plain theme s looks := by
  obtain ⟨p, _, q, _, _, same⟩ := emphasized
  simp [Plain, same]

variable {scene : Scene}

theorem emphasized_of_highlighted (flowing : 0 ≤ l.flow) {s : Line ℝ}
    (highlighted : scene.interaction.highlightsLink s.link.edge = true) :
    l.Emphasized scene.theme s (l.linkLooks scene s) := by
  have phase (t : ℝ) : Int.fract t ∈ Set.Ico (0 : ℝ) 1 := ⟨Int.fract_nonneg t, Int.fract_lt_one t⟩
  refine ⟨_, phase l.flow, _, phase (l.flow + 1 / 2), fract_half l.flow, ?_⟩
  simp [linkLooks, highlighted, flowPoints_eq flowing, linkWidth, flowWidth]

theorem plain_of_not_highlighted {s : Line ℝ}
    (unlit : scene.interaction.highlightsLink s.link.edge = false) :
    l.Plain scene.theme s (l.linkLooks scene s) := by
  simp [Plain, linkLooks, unlit, linkWidth]

variable [Scalar N] [Narrowing ℝ N]

/-- A frame brings out what the focus does. -/
structure BringsOut (measure : Measure ℝ) (l : Layout ℝ N) (c : Scene) : Prop where
  /-- The strokes are those of the links and nodes that are painted, -/
  strokes : l.paint measure c = l.clear c.theme ++
    [.save, .translate l.transform.x l.transform.y, .scale l.transform.scale l.transform.scale] ++
    ((l.paintedLinks c).flatMap (fun s =>
      l.paintLink c.theme (c.interaction.highlightsLink s.link.edge) s.start s.finish) ++
    (l.paintedNodes c).flatMap (fun n => paintNode measure c n.node n.centre)) ++ [.restore]
  /-- which are shown and have their places; -/
  links : ∀ {s}, s ∈ l.paintedLinks c ↔ s.link ∈ l.edges ∧ c.showsLink s.link.edge = true ∧
    l.position? s.link.source = some s.start ∧ l.position? s.link.target = some s.finish
  nodes : ∀ {n}, n ∈ l.paintedNodes c ↔ l.position? n.index = some n.centre ∧
    c.snapshot.nodes[n.index]? = some n.node ∧ c.interaction.showsNode n.node = true
  /-- what is seen of them comes after the background, whatever was painted before. -/
  looks : ∀ ink : Ink ℝ, (Easel.blank ink).shows (l.paint measure c) =
    ⟨.block ⟨zero, zero⟩ l.width l.height c.theme.background, id⟩ ::
      ((l.paintedLinks c).flatMap (l.linkLooks c) ++ (l.paintedNodes c).flatMap (nodeLooks c measure)).map
        fun k => ⟨k, l.toCanvas⟩
  zoomed : 0 < l.camera.zoom
  /-- Of the links, some are to be emphasized and are, and all others are plain. -/
  emphasized : ∀ {s}, s ∈ l.paintedLinks c →
    (l.Emphasized c.theme s (l.linkLooks c s) ↔ c.Emphasizes s.link.edge)
  plain : ∀ {s}, s ∈ l.paintedLinks c → (l.Plain c.theme s (l.linkLooks c s) ↔ ¬ c.Emphasizes s.link.edge)
  /-- A node is a disc with an outline and one label, -/
  labelled : ∀ n : PaintedNode ℝ, ∃ start size, 1 ≤ size ∧ nodeLooks c measure n =
    [.filled (.disc n.centre (c.interaction.paintedRadius n.node)) (c.interaction.nodeFill n.node c.theme),
      .outlined (.disc n.centre (c.interaction.paintedRadius n.node)) nodeStroke nodeStrokeWidth,
      .text n.node.id start (fontOf size) labelColour]
  /-- gray if it is to be out of focus, and of the colour of its type otherwise. -/
  muted : ∀ n : Node, mutedColour? n.entityType?.colour c.theme = some (c.interaction.nodeFill n c.theme) ↔
    c.Dims n
  coloured : ∀ n : Node, c.interaction.nodeFill n c.theme = n.entityType?.colour ↔ ¬ c.Dims n

/-- Whatever has happened to a layout and been done to an interaction, a frame of them brings out what the focus
does. -/
theorem brings_out_focus (measure : Measure ℝ) (theme : Theme) (first : Snapshot) (operations : List Operation)
    {width height : ℝ} {changes : List (Change ℝ N)} (forward : ∀ c ∈ changes, c.Forward)
    (run : (create width height).after? changes = some l) :
    BringsOut measure l (((Attention.mk first .initial).after operations).scene theme) := by
  have lit := Attention.lit_after first operations theme
  generalize ((Attention.mk first .initial).after operations).scene theme = c at lit ⊢
  have flowing : 0 ≤ l.flow := by
    have flows := flow_after forward run
    rwa [create, Scalar.zero_real] at flows
  have zoom := (within_after Camera.within_initial forward run).zoom.1
  rw [zoomLeast_real] at zoom
  have emphasizes {s : Line ℝ} (painted : s ∈ l.paintedLinks c) :=
    Scene.highlightsLink_iff lit (l.mem_paintedLinks c |>.1 painted).2.1
  refine ⟨l.paint_eq c measure, l.mem_paintedLinks c, l.mem_paintedNodes c, l.looks_paint c measure, ?_, ?_, ?_,
    ?_, fun n => (Scene.nodeFill_iff lit n).1, fun n => (Scene.nodeFill_iff lit n).2⟩
  · linarith
  · intro s painted
    rw [← emphasizes painted]
    refine ⟨fun emphasized => ?_, emphasized_of_highlighted flowing⟩
    by_contra unlit
    exact not_plain_of_emphasized emphasized (plain_of_not_highlighted (Bool.eq_false_iff.2 unlit))
  · intro s painted
    rw [← emphasizes painted, Bool.not_eq_true]
    refine ⟨fun plain => ?_, plain_of_not_highlighted⟩
    by_contra lit
    exact not_plain_of_emphasized (emphasized_of_highlighted flowing (eq_true_of_ne_false lit)) plain
  · intro n
    exact ⟨_, _, one_le_size _ _ _, rfl⟩

/-- Three nodes in a row. -/
def chain : Snapshot :=
  ⟨[⟨"a", [], [], 7⟩, ⟨"b", [], [], 7⟩, ⟨"c", [], [], 7⟩], [⟨none, none, "a", "b"⟩, ⟨none, none, "b", "c"⟩], false⟩

/-- The row is laid out, and some time passes. -/
noncomputable def laidOut : List (Change ℝ ℝ) :=
  [.load chain, .tick (nat 1 / nat 4)]

/-- The row is taken over, and the node at its one end is made active. -/
def atEnd : List Operation :=
  [.adopt chain (.ofSnapshot chain), .select (some "a")]

/-- Everything is painted then; of the links the one at that end is emphasized, and of the nodes the one at the other
end is gray. -/
theorem brings_out_focus_chain : (∀ c ∈ laidOut, c.Forward) ∧
    ∃ l, (create 800 600).after? laidOut = some l ∧
      let c := ((Attention.mk .empty .initial).after atEnd).scene .dark
      BringsOut (fun _ _ => 0) l c ∧
        (l.paintedLinks c).map (·.link.edge) = [0, 1] ∧ c.Emphasizes 0 ∧ ¬ c.Emphasizes 1 ∧
        (l.paintedNodes c).map (·.node.id) = ["a", "b", "c"] ∧
        ¬ c.Dims ⟨"b", [], [], 7⟩ ∧ c.Dims ⟨"c", [], [], 7⟩ := by
  have forward : ∀ c ∈ laidOut, c.Forward := by
    simp [laidOut, Change.Forward, widen]
  have lit := Attention.lit_after .empty atEnd .dark
  refine ⟨forward, _, rfl, brings_out_focus _ _ .empty atEnd forward rfl, rfl, ?_, ?_, rfl, ?_, ?_⟩
  · exact ⟨⟨none, none, "a", "b"⟩, rfl, .inl rfl⟩
  · rintro ⟨e, present, touches⟩
    cases present
    simp at touches
  · exact mt (Scene.mutes_iff lit).2 (by decide +kernel)
  · exact (Scene.mutes_iff lit).1 (by decide +kernel)

end Layout

end GraphViewer
