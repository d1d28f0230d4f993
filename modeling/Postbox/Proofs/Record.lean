import Postbox.Message.Record
import Postbox.Proofs.Json.Values

/-! # Records — a message is read back from its text

    The values of a record are leaves: 64-bit words and texts.  A leaf is read
    back (`int64_word`, `Glyphs.text_ofString`), its token is proper and plain,
    and it is not `null`, so a field that is present is not taken for an absent
    one.  The members of a record have the names of its fields, in their order,
    so no name stands there twice and each field is found under its name
    (`ofJson_toJson`).

    The three readers then follow: that of one record, that of a list, and that
    of the reply to a saved draft. -/

namespace Postbox

/-! ## Whole numbers -/

namespace Json

/-- A positive number has no leading zero. -/
theorem toDigits_lead (n : Nat) (h : 0 < n) :
    ∃ c cs, Nat.toDigits 10 n = c :: cs ∧ c ≠ '0' := by
  induction n using Nat.strongRecOn with
  | ind n ih =>
      by_cases hlt : n < 10
      · refine ⟨n.digitChar, [], Nat.toDigits_of_lt_base hlt, ?_⟩
        have hall : ∀ m < 10, 0 < m → m.digitChar ≠ '0' := by decide
        exact hall n hlt h
      · obtain ⟨c, cs, hc, hne⟩ := ih (n / 10) (by omega) (by omega)
        refine ⟨c, cs ++ [(n % 10).digitChar], ?_, hne⟩
        rw [Nat.toDigits_of_base_le (by decide) (by omega), hc, List.cons_append]

/-- A whole number is written as the reader takes it. -/
theorem Number.ofInt_proper (n : Int) : (Number.ofInt n).IsProper where
  digits := isDigit_toDigits n.natAbs
  lead := by
    rcases Nat.eq_zero_or_pos n.natAbs with h | h
    · refine Or.inl ?_
      rw [Number.ofInt, h]
      rfl
    · exact Or.inr (toDigits_lead n.natAbs h)
  fraction := fun _ h => nomatch h

/-- A word is the word of its number. -/
theorem word_toInt (w : Int64) : Decimal.word? w.toInt = some w := by
  rw [Decimal.word?, if_pos ⟨w.minValue_le_toInt, w.toInt_le⟩, Int64.ofInt_toInt]

/-- **A word is read back from its number.** -/
theorem int64_word (w : Int64) : (Number.ofInt w.toInt).int64? = some w := by
  have hvalue : Nat.ofDigitChars 10 (Number.ofInt w.toInt).whole 0 = w.toInt.natAbs :=
    Nat.ofDigitChars_ten_toDigits
  have hshape : (Number.ofInt w.toInt).int64?
      = (if decide (w.toInt < 0) then
          (if w.toInt.natAbs = 0 then none else Decimal.word? (-(w.toInt.natAbs : Int)))
        else Decimal.word? w.toInt.natAbs) := by
    rw [Number.int64?, hvalue]
    rfl
  rw [hshape]
  by_cases hneg : w.toInt < 0
  · rw [if_pos (decide_eq_true hneg), if_neg (by omega),
      show -(w.toInt.natAbs : Int) = w.toInt by omega]
    exact word_toInt w
  · rw [if_neg (by simpa using hneg), show (w.toInt.natAbs : Int) = w.toInt by omega]
    exact word_toInt w

/-- A word has at most nineteen digits. -/
theorem length_word (w : Int64) : (Nat.toDigits 10 w.toInt.natAbs).length ≤ 19 := by
  rw [Nat.length_toDigits_le_iff (by decide) (by decide)]
  have hlow := w.le_toInt
  have hhigh := w.toInt_lt
  omega

/-- A word is a finite number. -/
theorem isFinite_word (w : Int64) : (Number.ofInt w.toInt).isFinite = true := by
  have hlen := length_word w
  have hdrop := ((Nat.toDigits 10 w.toInt.natAbs).dropWhile_sublist (· == '0')).length_le
  have hover : Decimal.overflowsDouble (Nat.toDigits 10 w.toInt.natAbs) 0 = false := by
    rw [Decimal.overflowsDouble]
    dsimp only
    rw [if_pos]
    rw [Bool.or_eq_true, decide_eq_true_eq]
    right
    omega
  show (!Decimal.overflowsDouble (Nat.toDigits 10 w.toInt.natAbs ++ []) 0) = true
  rw [List.append_nil, hover]
  rfl

/-! ## Leaves -/

/-- The values of the fields of a record: 64-bit words and texts. -/
inductive IsLeaf : Json → Prop
  | word (w : Int64) : IsLeaf (ofInt w.toInt)
  | text (s : String) : IsLeaf (ofString s)

/-- A token is read as it was written, and can be held as it is. -/
def Token.IsKept (t : Token) : Prop := t.IsProper ∧ t.isPlain = true

/-- The token of a text is kept. -/
theorem Token.text_kept (s : String) : (Token.text (Glyphs.ofString s)).IsKept := by
  refine ⟨⟨s, rfl⟩, ?_⟩
  show (s.toList.map some).all Option.isSome = true
  rw [List.all_map, List.all_eq_true]
  intro c _
  rfl

/-- The tokens of a leaf are kept. -/
theorem IsLeaf.tokens_kept {v : Json} (h : IsLeaf v) : ∀ t ∈ v.tokens, t.IsKept := by
  intro t ht
  cases h with
  | word w =>
      rw [List.mem_singleton.mp ht]
      exact ⟨Number.ofInt_proper _, isFinite_word w⟩
  | text s =>
      rw [List.mem_singleton.mp ht]
      exact Token.text_kept s

/-- A leaf has no depth. -/
theorem IsLeaf.depth_eq {v : Json} (h : IsLeaf v) : v.depth = 0 := by
  cases h with
  | word w => rw [ofInt, depth]
  | text s => rw [ofString, depth]

/-- What holds of the tokens of all elements, of comma and end, holds of the
    tokens of an array. -/
theorem elementTokens_forall {P : Token → Prop} (hcomma : P .comma) (hend : P .closeArray) :
    ∀ {vs : List Json}, (∀ v ∈ vs, ∀ t ∈ v.tokens, P t) → ∀ t ∈ elementTokens vs, P t
  | [], _ => by
      rw [elementTokens, List.forall_mem_singleton]
      exact hend
  | [v], h => by
      rw [elementTokens, List.forall_mem_append, List.forall_mem_singleton]
      exact ⟨h v List.mem_cons_self, hend⟩
  | v :: w :: vs, h => by
      have hrest := elementTokens_forall hcomma hend (List.forall_mem_cons.mp h).2
      rw [elementTokens, List.forall_mem_append, List.forall_mem_cons]
      exact ⟨h v List.mem_cons_self, hcomma, hrest⟩

/-- What holds of the keys and the tokens of all members, of the marks between
    them and of the end, holds of the tokens of an object. -/
theorem memberTokens_forall {P : Token → Prop} (hcomma : P .comma) (hcolon : P .colon)
    (hend : P .closeObject) : ∀ {ms : List (Glyphs × Json)},
    (∀ m ∈ ms, P (.text m.1) ∧ ∀ t ∈ m.2.tokens, P t) → ∀ t ∈ memberTokens ms, P t
  | [], _ => by
      rw [memberTokens, List.forall_mem_singleton]
      exact hend
  | [(k, v)], h => by
      obtain ⟨hk, hv⟩ := h (k, v) List.mem_cons_self
      rw [memberTokens, List.forall_mem_cons, List.forall_mem_cons, List.forall_mem_append,
        List.forall_mem_singleton]
      exact ⟨hk, hcolon, hv, hend⟩
  | (k, v) :: m :: ms, h => by
      obtain ⟨hk, hv⟩ := h (k, v) List.mem_cons_self
      have hrest := memberTokens_forall hcomma hcolon hend (List.forall_mem_cons.mp h).2
      rw [memberTokens, List.forall_mem_cons, List.forall_mem_cons, List.forall_mem_append,
        List.forall_mem_cons]
      exact ⟨hk, hcolon, hv, hcomma, hrest⟩

/-- An array is one deeper than its elements. -/
theorem elementsDepth_le {n : Nat} {vs : List Json} (h : ∀ v ∈ vs, v.depth ≤ n) :
    elementsDepth vs ≤ n := by
  induction vs with
  | nil => rw [elementsDepth]; exact Nat.zero_le n
  | cons v vs ih =>
      rw [elementsDepth]
      exact Nat.max_le.mpr
        ⟨h v List.mem_cons_self, ih fun w hw => h w (List.mem_cons_of_mem _ hw)⟩

/-- An object is one deeper than its members. -/
theorem membersDepth_le {n : Nat} {ms : List (Glyphs × Json)} (h : ∀ m ∈ ms, m.2.depth ≤ n) :
    membersDepth ms ≤ n := by
  induction ms with
  | nil => rw [membersDepth]; exact Nat.zero_le n
  | cons m ms ih =>
      rw [membersDepth]
      exact Nat.max_le.mpr
        ⟨h m List.mem_cons_self, ih fun w hw => h w (List.mem_cons_of_mem _ hw)⟩

end Json

/-! ## Members -/

namespace Message

open Json (Glyphs IsLeaf)

/-- The member of a field, if the field is present. -/
def fieldMember (name : String) (v : Option Json) : List (Glyphs × Json) :=
  (v.map fun v => (Glyphs.ofString name, v)).toList

/-- The members of a record: its present fields in their order. -/
def members (m : Message) : List (Glyphs × Json) :=
  fieldMember "id" (m.id.map MessageId.toJson) ++
    (fieldMember "text" (m.text.map Json.ofString) ++
      (fieldMember "summary" (m.summary.map Json.ofString) ++
        (fieldMember "created" (m.created.map Created.toJson) ++ [])))

/-- A record is the object of its members. -/
theorem toJson_members (m : Message) : m.toJson = .object m.members := by
  simp only [toJson, members, fieldMember, Option.map_map, List.append_assoc, List.append_nil]
  rfl

/-- The only member of a field that is present. -/
theorem mem_fieldMember {name : String} {v : Option Json} {x : Glyphs × Json}
    (h : x ∈ fieldMember name v) : x.1 = Glyphs.ofString name ∧ v = some x.2 := by
  cases v with
  | none => exact nomatch h
  | some v =>
      rw [List.mem_singleton.mp h]
      exact ⟨rfl, rfl⟩

/-- An id is a leaf. -/
theorem id_leaf (id : MessageId) : IsLeaf id.toJson := by
  cases id with
  | number w => exact .word w
  | text s => exact .text s

/-- A time of creation is a leaf. -/
theorem created_leaf (c : Created) : IsLeaf c.toJson := by
  cases c with
  | millis w => exact .word w
  | text s => exact .text s

/-- A field that is present is a leaf. -/
theorem leaf_of_map {α : Type} {write : α → Json} (h : ∀ a, IsLeaf (write a)) {o : Option α}
    {v : Json} (hv : o.map write = some v) : IsLeaf v := by
  obtain ⟨a, -, rfl⟩ := Option.map_eq_some_iff.mp hv
  exact h a

/-- **A member of a record is a name with a leaf.** -/
theorem mem_members {m : Message} {x : Glyphs × Json} (h : x ∈ m.members) :
    (∃ name, x.1 = Glyphs.ofString name) ∧ IsLeaf x.2 := by
  simp only [members, List.append_nil, List.mem_append] at h
  rcases h with h | h | h | h
  · obtain ⟨hname, hv⟩ := mem_fieldMember h
    exact ⟨⟨_, hname⟩, leaf_of_map id_leaf hv⟩
  · obtain ⟨hname, hv⟩ := mem_fieldMember h
    exact ⟨⟨_, hname⟩, leaf_of_map .text hv⟩
  · obtain ⟨hname, hv⟩ := mem_fieldMember h
    exact ⟨⟨_, hname⟩, leaf_of_map .text hv⟩
  · obtain ⟨hname, hv⟩ := mem_fieldMember h
    exact ⟨⟨_, hname⟩, leaf_of_map created_leaf hv⟩

/-! ## Fields found by name -/

/-- A field stands under its own name, or else what stands there behind it. -/
theorem member_own (name : String) (v : Option Json) (rest : List (Glyphs × Json)) :
    member name (fieldMember name v ++ rest) = v.getD (member name rest) := by
  cases v with
  | none => rfl
  | some v =>
      show (((List.find? _ ((Glyphs.ofString name, v) :: rest)).map Prod.snd).getD .null) = v
      rw [List.find?_cons_of_pos]
      · rfl
      · exact beq_self_eq_true (Glyphs.ofString name)

/-- A field does not stand under another name. -/
theorem member_other {name other : String} (h : other ≠ name) (v : Option Json)
    (rest : List (Glyphs × Json)) :
    member name (fieldMember other v ++ rest) = member name rest := by
  cases v with
  | none => rfl
  | some v =>
      show (((List.find? _ ((Glyphs.ofString other, v) :: rest)).map Prod.snd).getD .null) = _
      rw [List.find?_cons_of_neg]
      · rfl
      · rw [beq_iff_eq, Glyphs.ofString_inj]
        exact h

/-- Each field of a record stands under its own name, whatever stands before and behind
    it. -/
theorem member_members (m : Message) :
    member "id" m.members = (m.id.map MessageId.toJson).getD .null ∧
    member "text" m.members = (m.text.map Json.ofString).getD .null ∧
    member "summary" m.members = (m.summary.map Json.ofString).getD .null ∧
    member "created" m.members = (m.created.map Created.toJson).getD .null := by
  refine ⟨?_, ?_, ?_, ?_⟩
  · rw [members, member_own, member_other (by decide), member_other (by decide),
      member_other (by decide)]
    rfl
  · rw [members, member_other (by decide), member_own, member_other (by decide),
      member_other (by decide)]
    rfl
  · rw [members, member_other (by decide), member_other (by decide), member_own,
      member_other (by decide)]
    rfl
  · rw [members, member_other (by decide), member_other (by decide), member_other (by decide),
      member_own]
    rfl

/-- The names of a field's member. -/
theorem names_fieldMember (name : String) (v : Option Json) :
    ((fieldMember name v).filterMap fun x => x.1.text?).Sublist [name] := by
  cases v with
  | none => exact List.nil_sublist _
  | some v =>
      have hnames : ((fieldMember name (some v)).filterMap fun x => x.1.text?) = [name] := by
        simp [fieldMember, Glyphs.text_ofString]
      exact hnames ▸ List.Sublist.refl [name]

/-- No known name stands twice in a record. -/
theorem knownNames_nodup (m : Message) : (knownNames m.members).Nodup := by
  have hnames : (m.members.filterMap fun x => x.1.text?).Sublist fieldNames := by
    simp only [members, List.append_nil, List.filterMap_append]
    exact (names_fieldMember "id" _).append ((names_fieldMember "text" _).append
      ((names_fieldMember "summary" _).append (names_fieldMember "created" _)))
  have hfields : fieldNames.Nodup := by decide
  exact (hfields.sublist hnames).sublist List.filter_sublist

/-- A field is read back where its values are, and none of them is `null`. -/
theorem optional_map {α : Type} {read : Json → Option α} {write : α → Json}
    (hread : ∀ a, read (write a) = some a) (hnull : ∀ a, write a ≠ .null) (o : Option α) :
    optional read ((o.map write).getD .null) = some o := by
  cases o with
  | none => rfl
  | some a =>
      show optional read (write a) = some (some a)
      rw [optional, hread]
      · rfl
      · exact hnull a

/-! ## Records -/

/-- An id is read back. -/
theorem ofJson_id (id : MessageId) : MessageId.ofJson? id.toJson = some id := by
  cases id with
  | number w =>
      show (Json.Number.ofInt w.toInt).int64?.map MessageId.number = _
      rw [Json.int64_word]
      rfl
  | text s =>
      show (Glyphs.ofString s).text?.map MessageId.text = _
      rw [Glyphs.text_ofString]
      rfl

/-- A time of creation is read back. -/
theorem ofJson_created (c : Created) : Created.ofJson? c.toJson = some c := by
  cases c with
  | millis w =>
      show (Json.Number.ofInt w.toInt).int64?.map Created.millis = _
      rw [Json.int64_word]
      rfl
  | text s =>
      show (Glyphs.ofString s).text?.map Created.text = _
      rw [Glyphs.text_ofString]
      rfl

/-- A leaf is not `null`. -/
theorem leaf_ne_null {v : Json} (h : IsLeaf v) : v ≠ .null := by
  cases h with
  | word w => exact fun h => nomatch h
  | text s => exact fun h => nomatch h

theorem ofFields_values (m : Message) : ofFields? ((m.id.map MessageId.toJson).getD .null)
    ((m.text.map Json.ofString).getD .null) ((m.summary.map Json.ofString).getD .null)
    ((m.created.map Created.toJson).getD .null) = some m := by
  have hstring : ∀ s, textField? (Json.ofString s) = some s := Glyphs.text_ofString
  rw [ofFields?,
    optional_map ofJson_id (fun id => leaf_ne_null (id_leaf id)),
    optional_map hstring (fun s => leaf_ne_null (.text s)),
    optional_map hstring (fun s => leaf_ne_null (.text s)),
    optional_map ofJson_created (fun c => leaf_ne_null (created_leaf c))]
  rfl

/-- The keys of a record are proper texts. -/
theorem keys_members (m : Message) : (m.members.all fun x => x.1.text?.isSome) = true := by
  rw [List.all_eq_true]
  intro x hx
  obtain ⟨⟨name, hname⟩, -⟩ := mem_members hx
  rw [hname, Glyphs.text_ofString]
  rfl

/-- **A record is read back from its object.** -/
theorem ofJson_toJson (m : Message) : ofJson? m.toJson = some m := by
  obtain ⟨hid, htext, hsummary, hcreated⟩ := m.member_members
  rw [toJson_members, ofJson?, m.keys_members, decide_eq_true m.knownNames_nodup, Bool.and_self,
    if_pos rfl, hid, htext, hsummary, hcreated]
  exact m.ofFields_values

/-- The tokens of a record are kept. -/
theorem tokens_kept (m : Message) : ∀ t ∈ m.toJson.tokens, t.IsKept := by
  rw [toJson_members, Json.tokens, List.forall_mem_cons]
  refine ⟨⟨trivial, rfl⟩,
    Json.memberTokens_forall ⟨trivial, rfl⟩ ⟨trivial, rfl⟩ ⟨trivial, rfl⟩ ?_⟩
  intro x hx
  obtain ⟨⟨name, hname⟩, hleaf⟩ := mem_members hx
  rw [hname]
  exact ⟨Json.Token.text_kept name, hleaf.tokens_kept⟩

/-- The tokens of a list of records are kept. -/
theorem list_tokens_kept (ms : List Message) :
    ∀ t ∈ (Json.array (ms.map toJson)).tokens, t.IsKept := by
  rw [Json.tokens, List.forall_mem_cons]
  refine ⟨⟨trivial, rfl⟩, Json.elementTokens_forall ⟨trivial, rfl⟩ ⟨trivial, rfl⟩ ?_⟩
  intro v hv
  obtain ⟨m, -, rfl⟩ := List.mem_map.mp hv
  exact m.tokens_kept

/-- A record is an object without containers in it. -/
theorem depth_le (m : Message) : m.toJson.depth ≤ 1 := by
  have h : Json.membersDepth m.members ≤ 0 :=
    Json.membersDepth_le fun x hx => Nat.le_of_eq (mem_members hx).2.depth_eq
  rw [toJson_members, Json.depth]
  omega

/-- **A record is read back from its text.** -/
theorem read_write (m : Message) : read? (Glyphs.ofString m.write) = some m := by
  rw [read?, write, Json.read_write _ fun t ht => (m.tokens_kept t ht).1]
  exact m.ofJson_toJson

/-- The records of an array of records. -/
theorem listOfJson_toJson (ms : List Message) :
    listOfJson? (.array (ms.map toJson)) = some ms := by
  show (ms.map toJson).mapM ofJson? = some ms
  induction ms with
  | nil => rfl
  | cons m ms ih =>
      rw [List.map_cons, List.mapM_cons, ofJson_toJson, ih]
      rfl

/-- **A list of records is read back from its text.** -/
theorem readList_writeList (ms : List Message) :
    readList? (Glyphs.ofString (writeList ms)) = some ms := by
  rw [readList?, writeList, Json.read_write _ fun t ht => (list_tokens_kept ms t ht).1]
  exact listOfJson_toJson ms

/-- **The reply to a saved draft holds the records that were written.** -/
theorem ofReply_writeList (ms : List Message) :
    ofReply (Glyphs.ofString (writeList ms)) = ms := by
  -- two containers within each other are far from the limit of the reader
  have hdepth : (Json.array (ms.map toJson)).depth ≤ 2 := by
    have h : Json.elementsDepth (ms.map toJson) ≤ 1 := by
      refine Json.elementsDepth_le fun v hv => ?_
      obtain ⟨m, -, rfl⟩ := List.mem_map.mp hv
      exact m.depth_le
    rw [Json.depth]
    omega
  have hplain : Json.isPlain (Json.array (ms.map toJson)).tokens = true := by
    rw [Json.isPlain, Bool.and_eq_true, List.all_eq_true, decide_eq_true_eq, Json.nesting_tokens]
    exact ⟨fun t ht => (list_tokens_kept ms t ht).2, by omega⟩
  rw [ofReply, writeList, Json.lex_write _ fun t ht => (list_tokens_kept ms t ht).1,
    Option.filter_some, if_pos hplain]
  show ((Json.assemble _).bind _).getD [] = ms
  rw [Json.assemble_tokens]
  show (listOfJson? _ <|> _).getD [] = ms
  rw [listOfJson_toJson]
  rfl

end Message

end Postbox
