import GraphViewer.Json.Decode
import GraphViewer.Proofs.Spelling
/-
How trees are written. A tree without flaws is a row of tokens, and a text that spells these tokens, with
space between them as it likes, spells the tree. The tree of such a text is the one that it spells.
-/

namespace GraphViewer.Json

mutual

/-- The tokens of a tree without flaws. -/
inductive Tree.Written : Tree → List Token → Prop
  | null : Tree.Written .null [.null]
  | bool {b : Bool} : Tree.Written (.bool b) [.bool b]
  | number {n : Numeral} (complete : n.finish = .complete) : Tree.Written (.number n) [.number n]
  | string {q : Quoted} (closed : q.finish = .closed) : Tree.Written (.string q) [.string q]
  | emptyArray : Tree.Written (.array [] .closed) [.openArray, .closeArray]
  | array {items : List Tree} {ts : List Token} :
      ItemsWritten items ts → Tree.Written (.array items .closed) (.openArray :: ts)
  | emptyObject : Tree.Written (.object [] .closed) [.openObject, .closeObject]
  | object {members : List (Quoted × Tree)} {ts : List Token} :
      MembersWritten members ts → Tree.Written (.object members .closed) (.openObject :: ts)

/-- The tokens of an array from its first item to its closing bracket. -/
inductive ItemsWritten : List Tree → List Token → Prop
  | last {t : Tree} {ts : List Token} : t.Written ts → ItemsWritten [t] (ts ++ [.closeArray])
  | more {t : Tree} {items : List Tree} {ts us : List Token} :
      t.Written ts → ItemsWritten items us → ItemsWritten (t :: items) (ts ++ .comma :: us)

/-- The tokens of an object from its first member to its closing bracket. -/
inductive MembersWritten : List (Quoted × Tree) → List Token → Prop
  | last {key : Quoted} {t : Tree} {ts : List Token} (closed : key.finish = .closed) :
      t.Written ts → MembersWritten [(key, t)] (.string key :: .colon :: (ts ++ [.closeObject]))
  | more {key : Quoted} {t : Tree} {members : List (Quoted × Tree)} {ts us : List Token}
      (closed : key.finish = .closed) : t.Written ts → MembersWritten members us →
      MembersWritten ((key, t) :: members) (.string key :: .colon :: (ts ++ .comma :: us))

end

/-- A tree is written without flaws. -/
def Tree.WellFormed (t : Tree) : Prop :=
  ∃ ts, t.Written ts

/-- A text is a tree written out. -/
def Spells (text : String) (t : Tree) : Prop :=
  ∃ ts, t.Written ts ∧ Writes ts text.toList

/-! ## Building the tree -/

/-- What becomes of a finished value and the tokens after it. -/
def Tree.resume (t : Tree) (up : List Open) (rest : List Token) : Tree × List Token :=
  match Open.put t up with
  | .inl t => (t, rest)
  | .inr stack => Tree.build stack .separator rest

mutual

/-- The tokens of a value come to the same wherever a value is due. -/
theorem Tree.Written.build {t : Tree} {ts : List Token} (written : t.Written ts) {due : Due}
    (value : due ∈ [.value, .firstItem, .item]) (stack : List Open) (rest : List Token) :
    Tree.build stack due (ts ++ rest) = t.resume stack rest := by
  simp only [List.mem_cons, List.not_mem_nil, or_false] at value
  match written with
  | .null | .bool | .number _ | .string _ | .emptyArray | .emptyObject =>
    rcases value with rfl | rfl | rfl <;> rfl
  | .array later => rcases value with rfl | rfl | rfl <;> exact later.build (by simp) [] stack rest
  | .object later => rcases value with rfl | rfl | rfl <;> exact later.build (by simp) [] stack rest

/-- The items go behind those that the open array has. -/
theorem ItemsWritten.build {items : List Tree} {ts : List Token} (written : ItemsWritten items ts) {due : Due}
    (item : due ∈ [.firstItem, .item]) (done : List Tree) (up : List Open) (rest : List Token) :
    Tree.build (.array done :: up) due (ts ++ rest) =
      (Tree.array (done.reverse ++ items) .closed).resume up rest := by
  match written with
  | .last first =>
    rw [List.append_assoc, first.build (List.mem_cons_of_mem _ item)]
    show Tree.resume (.array (_ :: done).reverse .closed) up rest = _
    rw [List.reverse_cons]
  | .more first later =>
    rw [List.append_assoc, first.build (List.mem_cons_of_mem _ item)]
    show Tree.build (.array (_ :: done) :: up) .item (_ ++ rest) = _
    rw [later.build (by simp), List.reverse_cons, List.append_assoc]
    rfl

/-- The members go behind those that the open object has. -/
theorem MembersWritten.build {members : List (Quoted × Tree)} {ts : List Token}
    (written : MembersWritten members ts) {due : Due} (key : due ∈ [.firstKey, .key])
    (done : List (Quoted × Tree)) (up : List Open) (rest : List Token) :
    Tree.build (.object done :: up) due (ts ++ rest) =
      (Tree.object (done.reverse ++ members) .closed).resume up rest := by
  have reads (q : Quoted) (us : List Token) : Tree.build (.object done :: up) due (.string q :: .colon :: us) =
      Tree.build (.member done q :: up) .value us := by
    simp only [List.mem_cons, List.not_mem_nil, or_false] at key
    rcases key with rfl | rfl <;> rfl
  match written with
  | .last _ first =>
    rw [List.cons_append, List.cons_append, reads, List.append_assoc, first.build (by simp)]
    show Tree.resume (.object ((_, _) :: done).reverse .closed) up rest = _
    rw [List.reverse_cons]
  | .more _ first later =>
    rw [List.cons_append, List.cons_append, reads, List.append_assoc, first.build (by simp)]
    show Tree.build (.object ((_, _) :: done) :: up) .key (_ ++ rest) = _
    rw [later.build (by simp), List.reverse_cons, List.append_assoc]
    rfl

end

/-! ## Reading a text -/

theorem isChain_cons_other {t : Token} {ts : List Token} (other : t.isNumber = false)
    (later : ts.IsChain Token.Before) : (t :: ts).IsChain Token.Before := by
  refine List.isChain_cons.2 ⟨fun _ _ number => ?_, later⟩
  rw [other] at number
  cases number

theorem isChain_append_mark {ts us : List Token} {mark : Token} (chain : ts.IsChain Token.Before)
    (later : (mark :: us).IsChain Token.Before) (marks : mark.isMark = true) :
    (ts ++ mark :: us).IsChain Token.Before := by
  refine List.isChain_append.2 ⟨chain, later, ?_⟩
  rintro _ _ _ ⟨⟩ _
  exact marks

mutual

theorem Tree.Written.chain {t : Tree} {ts : List Token} (written : t.Written ts) :
    ts.IsChain Token.Before := by
  match written with
  | .null | .bool | .number _ | .string _ => exact List.isChain_singleton _
  | .emptyArray | .emptyObject => exact isChain_cons_other rfl (List.isChain_singleton _)
  | .array later => exact isChain_cons_other rfl later.chain
  | .object later => exact isChain_cons_other rfl later.chain

theorem ItemsWritten.chain {items : List Tree} {ts : List Token} (written : ItemsWritten items ts) :
    ts.IsChain Token.Before := by
  match written with
  | .last first => exact isChain_append_mark first.chain (List.isChain_singleton _) rfl
  | .more first later => exact isChain_append_mark first.chain (isChain_cons_other rfl later.chain) rfl

theorem MembersWritten.chain {members : List (Quoted × Tree)} {ts : List Token}
    (written : MembersWritten members ts) : ts.IsChain Token.Before := by
  match written with
  | .last _ first =>
    have value := isChain_append_mark first.chain (List.isChain_singleton .closeObject) rfl
    exact isChain_cons_other rfl (isChain_cons_other rfl value)
  | .more _ first later =>
    have value := isChain_append_mark first.chain (isChain_cons_other (t := .comma) rfl later.chain) rfl
    exact isChain_cons_other rfl (isChain_cons_other rfl value)

end

/-- The tree of a text is the one that it spells, and nothing follows it. -/
theorem document_of_spells {text : String} {t : Tree} (spells : Spells text t) : Document.ofText text = ⟨t, false⟩ := by
  obtain ⟨ts, written, writes⟩ := spells
  have built : Tree.build [] .value (ts ++ []) = t.resume [] [] := written.build (by simp) [] []
  rw [List.append_nil] at built
  rw [Document.ofText, writes.tokens_eq written.chain, built]
  rfl

theorem Quoted.text_plain (s : String) : (Quoted.plain s).text = .ok s := by
  have chars (cs : List Char) : piecesChars .closed (cs.map .char) = .ok cs := by
    induction cs with
    | nil => rfl
    | cons c cs ih =>
      rw [List.map_cons, piecesChars, ih]
      rfl
  rw [Quoted.text, Quoted.plain, chars]
  exact congrArg Except.ok String.ofList_toList

/-! ## Skipping -/

mutual

theorem Tree.Written.skip {t : Tree} {ts : List Token} (written : t.Written ts) : t.skip = .ok () := by
  match written with
  | .null | .bool => rfl
  | .number complete => simp [Tree.skip, Numeral.skip, complete]
  | .string closed => simp [Tree.skip, Quoted.skip, closed, StringEnd.flaw?]
  | .emptyArray | .emptyObject => rfl
  | .array later =>
    rw [Tree.skip, later.skip]
    rfl
  | .object later =>
    rw [Tree.skip, later.skip]
    rfl

theorem ItemsWritten.skip {items : List Tree} {ts : List Token} (written : ItemsWritten items ts) :
    skipItems items = .ok () := by
  match written with
  | .last first =>
    rw [skipItems, first.skip]
    rfl
  | .more first later =>
    rw [skipItems, first.skip]
    exact later.skip

theorem MembersWritten.skip {members : List (Quoted × Tree)} {ts : List Token}
    (written : MembersWritten members ts) : skipMembers members = .ok () := by
  match written with
  | .last closed first =>
    rw [skipMembers, Quoted.skip, closed, first.skip]
    rfl
  | .more closed first later =>
    rw [skipMembers, Quoted.skip, closed, first.skip]
    exact later.skip

end

theorem Tree.WellFormed.skip {t : Tree} (wellFormed : t.WellFormed) : t.skip = .ok () :=
  wellFormed.elim fun _ written => written.skip

end GraphViewer.Json
