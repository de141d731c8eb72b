import Gradebook.Json.Reader
import Gradebook.Proofs.Json.Spaced

/-!
# JSON texts read back

A text of a value is read back as that value, with white space wherever it may stand.  The text is
first taken apart into the tokens of the value; the reader then goes through the tokens of a value
from any state that expects one to the state that holds it, whatever is open around it.
-/

namespace Gradebook.Json

namespace Value

def IsWritable (v : Value) : Prop :=
  ∀ t ∈ v.tokens, t.IsWritable

theorem isWritable_of_token {v : Value} {t : Token} (h : v.tokens = [t]) (ht : t.IsWritable) :
    v.IsWritable := by
  intro u hu
  rw [h, List.mem_singleton] at hu
  rw [hu]
  exact ht

theorem isWritable_bool (b : Bool) : (bool b).IsWritable :=
  isWritable_of_token rfl trivial

theorem isWritable_integer (n : Int) : (integer n).IsWritable :=
  isWritable_of_token rfl trivial

theorem isWritable_string (s : String) : (string s).IsWritable :=
  isWritable_of_token rfl rfl

theorem isWritable_tokensOfItems {items : List Value} (h : ∀ v ∈ items, v.IsWritable) :
    ∀ t ∈ tokensOfItems items, t.IsWritable := by
  induction items with
  | nil =>
    intro t ht
    rw [tokensOfItems, List.mem_singleton] at ht
    rw [ht]
    trivial
  | cons v items ih =>
    intro t ht
    rw [tokensOfItems, List.mem_cons, List.mem_append] at ht
    rcases ht with rfl | ht | ht
    · trivial
    · exact h v List.mem_cons_self t ht
    · exact ih (fun w hw => h w (List.mem_cons_of_mem v hw)) t ht

theorem isWritable_array {items : List Value} (h : ∀ v ∈ items, v.IsWritable) :
    (array items).IsWritable := by
  intro t ht
  cases items with
  | nil =>
    rw [tokens, List.mem_cons, List.mem_singleton] at ht
    rcases ht with rfl | rfl <;> trivial
  | cons v items =>
    rw [tokens, List.mem_cons, List.mem_append] at ht
    rcases ht with rfl | ht | ht
    · trivial
    · exact h v List.mem_cons_self t ht
    · exact isWritable_tokensOfItems (fun w hw => h w (List.mem_cons_of_mem v hw)) t ht

theorem isWritable_tokensOfMembers {members : List (String × Value)}
    (h : ∀ m ∈ members, m.2.IsWritable) : ∀ t ∈ tokensOfMembers members, t.IsWritable := by
  induction members with
  | nil =>
    intro t ht
    rw [tokensOfMembers, List.mem_singleton] at ht
    rw [ht]
    trivial
  | cons m members ih =>
    intro t ht
    rw [tokensOfMembers, List.mem_cons, List.mem_cons, List.mem_cons, List.mem_append] at ht
    rcases ht with rfl | rfl | rfl | ht | ht
    · trivial
    · rfl
    · trivial
    · exact h m List.mem_cons_self t ht
    · exact ih (fun w hw => h w (List.mem_cons_of_mem m hw)) t ht

theorem isWritable_object {members : List (String × Value)}
    (h : ∀ m ∈ members, m.2.IsWritable) : (object members).IsWritable := by
  intro t ht
  cases members with
  | nil =>
    rw [tokens, List.mem_cons, List.mem_singleton] at ht
    rcases ht with rfl | rfl <;> trivial
  | cons m members =>
    rw [tokens, List.mem_cons, List.mem_cons, List.mem_cons, List.mem_append] at ht
    rcases ht with rfl | rfl | rfl | ht | ht
    · trivial
    · rfl
    · trivial
    · exact h m List.mem_cons_self t ht
    · exact isWritable_tokensOfMembers (fun w hw => h w (List.mem_cons_of_mem m hw)) t ht

end Value

/-- A member whose name can be read, as the reader keeps it. -/
def named (m : String × Value) : Option String × Value :=
  (some m.1, m.2)

theorem objectOf_named (members : List (String × Value)) :
    objectOf (members.map named) = .object members.reverse := by
  have hread : ∀ ms : List (String × Value),
      (ms.map named).mapM (fun m => m.1.map (·, m.2)) = some ms := by
    intro ms
    induction ms with
    | nil => rfl
    | cons m ms ih =>
      rw [List.map_cons, List.mapM_cons, ih]
      rfl
  rw [objectOf, ← List.map_reverse, hread]

open ReadState

namespace Value

mutual

/-- From any state that expects a value, its tokens lead to the state that holds it. -/
theorem foldlM_tokens : ∀ (v : Value) (mayClose : Bool) (frames : List Frame) (ts : List Token),
    (v.tokens ++ ts).foldlM step (.value mayClose frames) = ts.foldlM step (.after v frames)
  | null, _, frames, ts => rfl
  | bool b, _, frames, ts => rfl
  | integer n, _, frames, ts => rfl
  | decimal literal, _, frames, ts => rfl
  | string s, _, frames, ts => rfl
  | unreadable, _, frames, ts => rfl
  | array [], _, frames, ts => rfl
  | array (v :: items), _, frames, ts => by
    rw [tokens, List.cons_append, List.append_assoc, List.foldlM_cons]
    change (v.tokens ++ (tokensOfItems items ++ ts)).foldlM step
      (.value true (.array [] :: frames)) = _
    rw [foldlM_tokens v, foldlM_tokensOfItems items]
    rfl
  | object [], _, frames, ts => rfl
  | object ((k, v) :: members), _, frames, ts => by
    rw [tokens, List.cons_append, List.cons_append, List.cons_append, List.append_assoc,
      List.foldlM_cons]
    change (v.tokens ++ (tokensOfMembers members ++ ts)).foldlM step
      (.value false (.object ([].map named) (some k) :: frames)) = _
    rw [foldlM_tokens v, foldlM_tokensOfMembers members]
    rfl

-- The frame holds the items before `v`, the last one first.
theorem foldlM_tokensOfItems : ∀ (items : List Value) (v : Value) (done : List Value)
    (frames : List Frame) (ts : List Token),
    (tokensOfItems items ++ ts).foldlM step (.after v (.array done :: frames)) =
      ts.foldlM step (.after (.array (done.reverse ++ v :: items)) frames)
  | [], v, done, frames, ts => by
    rw [tokensOfItems, List.singleton_append, List.foldlM_cons]
    change ts.foldlM step (.after (.array (v :: done).reverse) frames) = _
    rw [List.reverse_cons]
  | w :: items, v, done, frames, ts => by
    rw [tokensOfItems, List.cons_append, List.append_assoc, List.foldlM_cons]
    change (w.tokens ++ (tokensOfItems items ++ ts)).foldlM step
      (.value false (.array (v :: done) :: frames)) = _
    rw [foldlM_tokens w, foldlM_tokensOfItems items, List.reverse_cons, List.append_assoc]
    rfl

-- The frame holds the members before `v`, the last one first, and the name of `v`.
theorem foldlM_tokensOfMembers : ∀ (members : List (String × Value)) (k : String) (v : Value)
    (done : List (String × Value)) (frames : List Frame) (ts : List Token),
    (tokensOfMembers members ++ ts).foldlM step
        (.after v (.object (done.map named) (some k) :: frames)) =
      ts.foldlM step (.after (.object (done.reverse ++ (k, v) :: members)) frames)
  | [], k, v, done, frames, ts => by
    rw [tokensOfMembers, List.singleton_append, List.foldlM_cons]
    change ts.foldlM step (.after (objectOf (((k, v) :: done).map named)) frames) = _
    rw [objectOf_named, List.reverse_cons]
  | (l, w) :: members, k, v, done, frames, ts => by
    rw [tokensOfMembers, List.cons_append, List.cons_append, List.cons_append, List.append_assoc,
      List.foldlM_cons]
    change (w.tokens ++ (tokensOfMembers members ++ ts)).foldlM step
      (.value false (.object (((k, v) :: done).map named) (some l) :: frames)) = _
    rw [foldlM_tokens w, foldlM_tokensOfMembers members, List.reverse_cons, List.append_assoc]
    rfl

end

theorem ofTokens?_tokens (v : Value) : ofTokens? v.tokens = some v := by
  have h := foldlM_tokens v false [] []
  rw [List.append_nil] at h
  rw [ofTokens?, h]
  rfl

/-- The text holds the tokens of the value, each of which can be read back. -/
def IsWrittenAs (v : Value) (text : String) : Prop :=
  v.IsWritable ∧ Spaced v.tokens text.toList

theorem IsWritable.isWrittenAs_pretty {v : Value} (h : v.IsWritable) :
    v.IsWrittenAs v.pretty := by
  refine ⟨h, ?_⟩
  rw [pretty, String.toList_ofList]
  exact spaced_layout 0 v

/-- Its tokens with the same white space in front of each are one of the texts of a value. -/
theorem IsWritable.isWrittenAs_flatMap {v : Value} {blank : List Char} (h : v.IsWritable)
    (hblank : ∀ c ∈ blank, isSpace c = true) :
    v.IsWrittenAs (String.ofList (v.tokens.flatMap fun t => blank ++ t.write)) := by
  refine ⟨h, ?_⟩
  rw [String.toList_ofList]
  exact .flatMap hblank v.tokens

theorem IsWrittenAs.read? {v : Value} {text : String} (h : v.IsWrittenAs text) :
    Value.read? text = some v := by
  have htokens := tokens?_spaced h.2 h.1 v.isChain_tokens endsNumber_nil
  rw [List.append_nil, tokens?_nil] at htokens
  rw [Value.read?, htokens]
  simp only [Option.map_eq_map, Option.map_some, List.append_nil, Option.bind_some,
    ofTokens?_tokens]

theorem read?_pretty {v : Value} (hv : v.IsWritable) : read? v.pretty = some v :=
  hv.isWrittenAs_pretty.read?

end Value

end Gradebook.Json
