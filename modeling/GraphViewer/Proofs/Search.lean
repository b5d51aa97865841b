import Mathlib.Data.List.Infix
import Mathlib.Data.List.TakeWhile
import GraphViewer.Graph.Snapshot
/-
What a search finds. Ids and the text that is searched for are compared in lower case, and lower case depends on
what stands around a capital sigma: it has a form of its own at the end of a word. So a text can occur in an id as
it is, and not be found. This cannot happen just if the text shows the form of each of its capital sigmas whatever
stands around it, and then a longer text does not find more than it either.
-/

namespace GraphViewer

namespace Text

variable {cs more before rest before' rest' s t : List Char} {c : Char}

/-! ## Capital sigmas -/

/-- Nothing in a text says whether a word ends before it. -/
def ignorable (cs : List Char) : Bool :=
  cs.all isCaseIgnorable

theorem meetsCased_append (cs more : List Char) :
    meetsCased (cs ++ more) = if ignorable cs then meetsCased more else meetsCased cs := by
  unfold meetsCased
  rw [List.dropWhile_append]
  cases skipped : cs.dropWhile isCaseIgnorable with
  | nil =>
    have all : ignorable cs = true := by simpa [ignorable, List.dropWhile_eq_nil_iff] using skipped
    simp [all]
  | cons c later =>
    have some : ignorable cs = false := by
      rw [Bool.eq_false_iff]
      intro all
      rw [List.dropWhile_eq_nil_iff.2 (by simpa [ignorable] using all)] at skipped
      cases skipped
    simp [some]

theorem meetsCased_of_ignorable (all : ignorable cs = true) : meetsCased cs = false := by
  simpa [all, meetsCased] using meetsCased_append cs []

theorem ignorable_reverse (cs : List Char) : ignorable cs.reverse = ignorable cs :=
  List.all_reverse

/-- A capital sigma between two texts ends a word. The text before it is given nearest first. -/
def endsWord (before rest : List Char) : Bool :=
  meetsCased before && !meetsCased rest

/-- A text in lower case where it stands between two others. -/
def lowerBetween (before rest : List Char) : List Char → List Char
  | [] => []
  | c :: cs =>
    (if c == 'Σ' then [if endsWord before (cs ++ rest) then 'ς' else 'σ'] else lowerChar c) ++
      lowerBetween (c :: before) rest cs

theorem lowerAfter_append (before s t : List Char) :
    lowerAfter before (s ++ t) = lowerBetween before t s ++ lowerAfter (s.reverse ++ before) t := by
  induction s generalizing before with
  | nil => rfl
  | cons c s ih => simp [lowerAfter, lowerBetween, endsWord, ih]

theorem lowerBetween_nil (before s : List Char) : lowerBetween before [] s = lowerAfter before s := by
  have whole := lowerAfter_append before s []
  simpa [lowerAfter] using whole.symm

/-- The capital sigmas of a text have the same form in two places. -/
def SameForms (before rest before' rest' s : List Char) : Prop :=
  ∀ u v, s = u ++ 'Σ' :: v →
    endsWord (u.reverse ++ before) (v ++ rest) = endsWord (u.reverse ++ before') (v ++ rest')

theorem sameForms_cons : SameForms before rest before' rest' (c :: cs) ↔
    (c = 'Σ' → endsWord before (cs ++ rest) = endsWord before' (cs ++ rest')) ∧
      SameForms (c :: before) rest (c :: before') rest' cs := by
  constructor
  · intro same
    refine ⟨?_, fun u v split => ?_⟩
    · rintro rfl
      exact same [] cs rfl
    · have longer := same (c :: u) v (by rw [split, List.cons_append])
      simpa using longer
  · rintro ⟨first, later⟩ u v split
    cases u with
    | nil =>
      cases split
      exact first rfl
    | cons d u =>
      cases split
      simpa using later u v rfl

theorem lowerBetween_eq_iff :
    lowerBetween before rest s = lowerBetween before' rest' s ↔ SameForms before rest before' rest' s := by
  induction s generalizing before before' with
  | nil => simp [lowerBetween, SameForms]
  | cons c cs ih =>
    rw [sameForms_cons, ← ih]
    by_cases sigma : c = 'Σ'
    · simp only [lowerBetween, sigma, beq_self_eq_true, if_true, List.cons_append, List.nil_append,
        List.cons.injEq, true_imp_iff]
      refine and_congr_left fun _ => ?_
      cases endsWord before (cs ++ rest) <;> cases endsWord before' (cs ++ rest') <;> decide
    · simp [lowerBetween, sigma]

theorem length_lowerBetween (before rest before' rest' s : List Char) :
    (lowerBetween before rest s).length = (lowerBetween before' rest' s).length := by
  induction s generalizing before before' with
  | nil => rfl
  | cons c cs ih =>
    rw [lowerBetween, lowerBetween, List.length_append, List.length_append, ih (c :: before) (c :: before')]
    split <;> rfl

/-! ## Open sigmas -/

/-- A text holds a capital sigma of which it does not say the form: text around it could tell that a word goes
on behind, or that one goes before. -/
def LeavesOpen (t : List Char) : Prop :=
  ∃ u v, t = u ++ 'Σ' :: v ∧ meetsCased v = false ∧
    (ignorable u = true ∨ ignorable v = true ∧ meetsCased u.reverse = true)

/-- Where a text says the forms of its sigmas, they are the same wherever it stands. -/
theorem sameForms_of_closed (closed : ¬ LeavesOpen t) (before rest : List Char) :
    SameForms before rest [] [] t := by
  intro u v split
  simp only [endsWord, meetsCased_append, ignorable_reverse, List.append_nil]
  cases ends : meetsCased v with
  | true =>
    have some : ignorable v = false := by
      rw [Bool.eq_false_iff]
      intro all
      rw [meetsCased_of_ignorable all] at ends
      cases ends
    simp [some]
  | false =>
    have some : ignorable u = false := by
      rw [Bool.eq_false_iff]
      exact fun all => closed ⟨u, v, split, ends, .inl all⟩
    cases all : ignorable v with
    | true =>
      have plain : meetsCased u.reverse = false := by
        rw [Bool.eq_false_iff]
        exact fun cased => closed ⟨u, v, split, ends, .inr ⟨all, cased⟩⟩
      simp [some, plain]
    | false => simp [some]

/-- A text is found where its sigmas have the forms that they have in it alone. -/
theorem lowerAfter_infix (front back : List Char) (forms : SameForms front.reverse back [] [] t) :
    lowerAfter [] t <:+: lowerAfter [] (front ++ (t ++ back)) := by
  have here : lowerBetween front.reverse back t = lowerAfter [] t := by
    rw [← lowerBetween_nil]
    exact lowerBetween_eq_iff.2 forms
  rw [lowerAfter_append, lowerAfter_append, List.append_nil, here, ← List.append_assoc]
  exact List.infix_append _ _ _

theorem not_infix_cons {l whole : List Char} {e : Char} (same : l.length = whole.length) (other : l ≠ whole)
    (head : l.head? ≠ some e) : ¬ l <:+: e :: whole := by
  rw [List.infix_cons_iff]
  rintro (first | later)
  · cases l with
    | nil => exact other (List.length_eq_zero_iff.1 same.symm).symm
    | cons d l => exact head (congrArg some (List.cons_prefix_cons.1 first).1)
  · exact other (later.eq_of_length same)

/-- Letters that are cased and lower case. -/
theorem letters : ∀ c ∈ ['a', 'b'],
    meetsCased [c] = true ∧ lowerChar c = [c] ∧ (c == 'Σ') = false ∧ isBlank c = false := by
  intro c among
  simp only [List.mem_cons, List.not_mem_nil, or_false] at among
  rcases among with rfl | rfl <;> decide +kernel

theorem exists_letter (l : List Char) : ∃ c ∈ ['a', 'b'], l.head? ≠ some c := by
  by_cases first : l.head? = some 'a'
  · exact ⟨'b', by simp, by simp [first]⟩
  · exact ⟨'a', by simp, first⟩

/-- A text that leaves a form open does not occur any more in lower case if some letter comes before or after. -/
theorem missed_of_open (leaves : LeavesOpen t) : ∃ c ∈ ['a', 'b'],
    ¬ lowerAfter [] t <:+: lowerAfter [] (c :: t) ∨ ¬ lowerAfter [] t <:+: lowerAfter [] (t ++ [c]) := by
  obtain ⟨u, v, split, ends, begins | ⟨all, cased⟩⟩ := leaves
  · obtain ⟨c, letter, head⟩ := exists_letter (lowerAfter [] t)
    obtain ⟨meets, lowered, other, -⟩ := letters c letter
    refine ⟨c, letter, .inl ?_⟩
    have differs : lowerAfter [] t ≠ lowerAfter [c] t := by
      rw [← lowerBetween_nil, ← lowerBetween_nil, Ne, lowerBetween_eq_iff]
      intro same
      have form := same u v split
      rw [← ignorable_reverse] at begins
      simp [endsWord, meetsCased_append, begins, meetsCased_of_ignorable begins, meets, ends] at form
    have whole : lowerAfter [] (c :: t) = c :: lowerAfter [c] t := by
      simp [lowerAfter, lowered, other]
    rw [whole]
    refine not_infix_cons ?_ differs head
    rw [← lowerBetween_nil, ← lowerBetween_nil]
    exact length_lowerBetween _ _ _ _ t
  · obtain ⟨c, letter, head⟩ := exists_letter (lowerAfter [] t).reverse
    obtain ⟨meets, lowered, other, -⟩ := letters c letter
    refine ⟨c, letter, .inr ?_⟩
    have differs : lowerAfter [] t ≠ lowerBetween [] [c] t := by
      rw [← lowerBetween_nil, Ne, lowerBetween_eq_iff]
      intro same
      have form := same u v split
      simp [endsWord, meetsCased_append, all, meets, ends, cased] at form
    have whole : lowerAfter [] (t ++ [c]) = lowerBetween [] [c] t ++ [c] := by
      rw [lowerAfter_append]
      simp [lowerAfter, lowered, other]
    rw [whole, ← List.reverse_infix, List.reverse_append, List.reverse_singleton, List.singleton_append]
    refine not_infix_cons ?_ (List.reverse_injective.ne differs) head
    rw [List.length_reverse, List.length_reverse, ← lowerBetween_nil]
    exact length_lowerBetween _ _ _ _ t

/-! ## Trimming -/

theorem dropWhile_append_of_keeps {p : Char → Bool} {m : List Char} (keeps : m.dropWhile p = m) (front : List Char) :
    ∃ kept, (front ++ m).dropWhile p = kept ++ m := by
  rw [List.dropWhile_append, keeps]
  split
  · exact ⟨[], rfl⟩
  · exact ⟨_, rfl⟩

theorem keeps_append {p : Char → Bool} {m : List Char} (some : m ≠ []) (keeps : m.dropWhile p = m)
    (back : List Char) : (m ++ back).dropWhile p = m ++ back := by
  rw [List.dropWhile_append, keeps, if_neg (by simpa using some)]

theorem trimmed_keeps (cs : List Char) : (trimmed cs).dropWhile isBlank = trimmed cs ∧
    (trimmed cs).reverse.dropWhile isBlank = (trimmed cs).reverse := by
  constructor
  · exact dropWhile_of_prefix_dropWhile (trimmed_isPrefix cs)
  · rw [trimmed, List.reverse_reverse, dropWhile_of_prefix_dropWhile (List.prefix_refl _)]

theorem trimmed_eq_self (front : cs.dropWhile isBlank = cs) (back : cs.reverse.dropWhile isBlank = cs.reverse) :
    trimmed cs = cs := by
  rw [trimmed, front, back, List.reverse_reverse]

theorem trim_eq_self {s : String} (same : trimmed s.toList = s.toList) : trim s = s := by
  rw [trim, same, String.ofList_toList]

/-- What is left of a text once it is trimmed stays in any text that it is a part of. -/
theorem trimmed_infix (front cs back : List Char) : trimmed cs <:+: trimmed (front ++ (cs ++ back)) := by
  by_cases some : trimmed cs = []
  · rw [some]
    exact List.nil_infix
  obtain ⟨first, last⟩ := trimmed_keeps cs
  obtain ⟨a, b, whole⟩ := (trimmed_isPrefix cs).isInfix.trans (List.dropWhile_suffix _).isInfix
  generalize trimmed cs = m at *
  obtain ⟨kept, left⟩ := dropWhile_append_of_keeps (keeps_append some first (b ++ back)) (front ++ a)
  obtain ⟨kept', right⟩ := dropWhile_append_of_keeps
    (keeps_append (mt List.reverse_eq_nil_iff.1 some) last kept.reverse) (b ++ back).reverse
  have split : front ++ (cs ++ back) = front ++ a ++ (m ++ (b ++ back)) := by
    simp [← whole]
  have turned : (kept ++ (m ++ (b ++ back))).reverse = (b ++ back).reverse ++ (m.reverse ++ kept.reverse) := by
    simp
  rw [trimmed, split, left, turned, right]
  exact ⟨kept, kept'.reverse, by simp⟩

theorem trimmed_around (some : trimmed cs ≠ []) (solid : isBlank c = false) :
    trimmed (c :: trimmed cs) = c :: trimmed cs ∧ trimmed (trimmed cs ++ [c]) = trimmed cs ++ [c] := by
  obtain ⟨first, last⟩ := trimmed_keeps cs
  have starts (more : List Char) : (c :: more).dropWhile isBlank = c :: more :=
    List.dropWhile_cons_of_neg (by simp [solid])
  constructor
  · refine trimmed_eq_self (starts _) ?_
    rw [List.reverse_cons]
    exact keeps_append (mt List.reverse_eq_nil_iff.1 some) last [c]
  · refine trimmed_eq_self (keeps_append some first [c]) ?_
    rw [List.reverse_concat]
    exact starts _

end Text

/-! ## Searching -/

namespace Snapshot

open Text

variable {s : Snapshot} {query longer id : String}

theorem mem_search_iff : id ∈ s.search query ↔ id ∈ s.nodes.map Node.id ∧
    lowerAfter [] (trim query).toList <:+: lowerAfter [] id.toList := by
  simp [search, lower, occursIn_iff]

/-- A text finds no more than one that occurs in it in lower case. -/
theorem search_sublist (within : lowerAfter [] (trim query).toList <:+: lowerAfter [] (trim longer).toList) :
    (s.search longer).Sublist (s.search query) := by
  refine List.monotone_filter_right _ fun id found => ?_
  simp only [occursIn_iff, lower, String.toList_ofList] at found ⊢
  exact within.trans found

/-- A graph of one node. -/
def single (id : NodeId) : Snapshot :=
  ⟨[⟨id, [], [], 7⟩], [], false⟩

theorem mem_search_single_iff : id ∈ (single id).search query ↔
    lowerAfter [] (trim query).toList <:+: lowerAfter [] id.toList := by
  simp [mem_search_iff, single]

/-- Around a text that leaves a form open there can be a letter with which it is not found. -/
theorem exists_missed (leaves : LeavesOpen (trim query).toList) : ∃ front back : String,
    (∀ c ∈ front.toList ++ back.toList, isBlank c = false) ∧
    trim (front ++ trim query ++ back) = front ++ trim query ++ back ∧
    front ++ trim query ++ back ∉ (single (front ++ trim query ++ back)).search query := by
  have some : trimmed query.toList ≠ [] := by
    obtain ⟨u, v, split, -⟩ := leaves
    intro none
    simp [trim, none] at split
  obtain ⟨c, letter, missed⟩ := missed_of_open leaves
  have solid := (letters c letter).2.2.2
  obtain ⟨first, last⟩ := trimmed_around some solid
  rcases missed with missed | missed
  · have split : (String.ofList [c] ++ trim query ++ "").toList = c :: trimmed query.toList := by simp [trim]
    refine ⟨String.ofList [c], "", by simpa using solid, trim_eq_self ?_, ?_⟩
    · rw [split, first]
    · rw [mem_search_single_iff, split]
      simpa [trim] using missed
  · have split : ("" ++ trim query ++ String.ofList [c]).toList = trimmed query.toList ++ [c] := by simp [trim]
    refine ⟨"", String.ofList [c], by simpa using solid, trim_eq_self ?_, ?_⟩
    · rw [split, last]
    · rw [mem_search_single_iff, split]
      simpa [trim] using missed

/-- What a text finds, and what longer texts do. -/
structure FindsText (query : String) : Prop where
  /-- The result is a part of the ids, in their order. -/
  sublist : ∀ s : Snapshot, (s.search query).Sublist (s.nodes.map Node.id)
  /-- Every id is found in which the text occurs as it is, whatever the graph, just if the text leaves the form of
  no sigma open. -/
  verbatim : (∀ (s : Snapshot), ∀ id ∈ s.nodes.map Node.id, (trim query).toList <:+: id.toList →
    id ∈ s.search query) ↔ ¬ LeavesOpen (trim query).toList
  /-- Just then nothing is found that was not found before if characters are added that are not blank, -/
  extended : (∀ (s : Snapshot) (front back : String), (∀ c ∈ front.toList ++ back.toList, isBlank c = false) →
    (s.search (front ++ trim query ++ back)).Sublist (s.search query)) ↔ ¬ LeavesOpen (trim query).toList
  /-- or any others, be it before the text is trimmed. -/
  longer : ¬ LeavesOpen (trim query).toList → ∀ (s : Snapshot) (front back : String),
    (s.search (front ++ query ++ back)).Sublist (s.search query)
  /-- An id is found in any case if the sigmas of the text have the forms in it that they have in the text. -/
  occurs : ∀ (s : Snapshot), ∀ id ∈ s.nodes.map Node.id, ∀ front back : List Char,
    id.toList = front ++ ((trim query).toList ++ back) →
    SameForms front.reverse back [] [] (trim query).toList → id ∈ s.search query

theorem within_longer (query : String) (closed : ¬ LeavesOpen (trim query).toList) (front back : String) :
    lowerAfter [] (trim query).toList <:+: lowerAfter [] (trim (front ++ query ++ back)).toList := by
  obtain ⟨a, b, whole⟩ := trimmed_infix front.toList query.toList back.toList
  have split : (trim (front ++ query ++ back)).toList = a ++ ((trim query).toList ++ b) := by
    simp [trim, ← whole]
  rw [split]
  exact lowerAfter_infix a b (sameForms_of_closed closed _ _)

theorem finds_text (query : String) : FindsText query where
  sublist s := List.filter_sublist
  verbatim := by
    constructor
    · intro finds leaves
      obtain ⟨front, back, -, -, missed⟩ := exists_missed leaves
      refine missed (finds _ _ (by simp [single]) ?_)
      exact ⟨front.toList, back.toList, by simp⟩
    · rintro closed s id among ⟨a, b, whole⟩
      rw [mem_search_iff, ← whole, List.append_assoc]
      exact ⟨among, lowerAfter_infix a b (sameForms_of_closed closed _ _)⟩
  extended := by
    constructor
    · intro few leaves
      obtain ⟨front, back, solid, trims, missed⟩ := exists_missed leaves
      refine missed ((few _ front back solid).subset ?_)
      rw [mem_search_single_iff, trims]
    · intro closed s front back _
      have again := within_longer (trim query) (by rwa [trim_trim]) front back
      rw [trim_trim] at again
      exact search_sublist again
  longer closed s front back := search_sublist (within_longer query closed front back)
  occurs s id among front back split forms := by
    rw [mem_search_iff, split]
    exact ⟨among, lowerAfter_infix front back forms⟩

/-- A capital sigma at the end of the text is searched for in its final form, which it does not have within the
id. With one more letter the id is found. -/
theorem sigma_missed : (trim "ΑΣ").toList <:+: "ΑΣΑ".toList ∧ LeavesOpen (trim "ΑΣ").toList ∧
    (single "ΑΣΑ").search "ΑΣ" = [] ∧ (single "ΑΣΑ").search "ΑΣΑ" = ["ΑΣΑ"] := by
  have text : (trim "ΑΣ").toList = ['Α', 'Σ'] := by decide +kernel
  refine ⟨⟨[], ['Α'], by rw [text]; decide⟩, ⟨['Α'], [], ?_⟩, by decide +kernel, by decide +kernel⟩
  exact ⟨text, by decide, .inr (by decide +kernel)⟩

end Snapshot

end GraphViewer
