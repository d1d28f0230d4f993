import Mathlib.Data.List.Nodup
import Postbox.Proofs.Exchange

/-! # Encoding — what is written for a record, and what else is read as it

    A record is written in one way and read in many.  As an object its members may come
    in any order, absent fields may be there as `null`, and there may be members of
    other names; as an array it has the four values in their order, and absent ones at
    its end may be left off (`Encodes`).  Each of these values, however it is spelled,
    is read as that record, and an object in which a known name stands twice is not read
    at all (`encodings_decode_alike`).

    The reader asks three things of an object: that its keys are texts, that no known
    name is there twice, and what stands under each of the four names.  None of them
    depends on the order of the members as long as no known name is there twice
    (`ofJson_perm`), so members may be taken in the order in which a record has them,
    with all others at the end. -/

namespace Postbox

open Json (Glyphs Token)

namespace Json.Glyphs

/-- The text of glyphs is the one that has these glyphs. -/
theorem text_eq_some {g : Glyphs} {s : String} : g.text? = some s ↔ g = ofString s := by
  constructor
  · intro h
    obtain ⟨cs, hcs, rfl⟩ := Option.map_eq_some_iff.mp h
    rw [ofString, String.toList_ofList]
    clear h
    induction g generalizing cs with
    | nil => simp_all
    | cons c g ih =>
        simp only [List.mapM_cons, id, Option.bind_eq_bind, Option.bind_eq_some_iff,
          Option.pure_def, Option.some.injEq] at hcs
        obtain ⟨c, rfl, cs, htail, rfl⟩ := hcs
        rw [ih cs htail, List.map_cons]
  · rintro rfl
    exact text_ofString s

end Json.Glyphs

namespace Message

/-! ## Names and members -/

section

variable {name : String} (hname : name ∈ fieldNames)

include hname in
/-- A known name is there as often as it is the key of a member. -/
theorem count_knownNames (members : List (Glyphs × Json)) :
    (knownNames members).count name = (members.map Prod.fst).count (Glyphs.ofString name) := by
  have hknown : fieldNames.contains name = true := List.contains_iff_mem.mpr hname
  rw [knownNames, List.count_filter hknown, List.count_filterMap, List.count, List.countP_map]
  refine List.countP_congr fun x _ => ?_
  simp only [Function.comp_apply, beq_iff_eq]
  exact Glyphs.text_eq_some

theorem member_append (name : String) (members rest : List (Glyphs × Json)) :
    member name (members ++ rest)
      = ((members.find? fun x => x.1 == Glyphs.ofString name).map Prod.snd).getD
          (member name rest) := by
  rw [member, List.find?_append]
  cases members.find? fun x => x.1 == Glyphs.ofString name with
  | none => rfl
  | some x => rfl

/-- A member that stands in front is found whatever stands behind it. -/
theorem member_append_null {name : String} {rest : List (Glyphs × Json)}
    (h : member name rest = .null) (members : List (Glyphs × Json)) :
    member name (members ++ rest) = member name members := by
  rw [member_append, h, member]

include hname in
/-- Where a known name is there once, its member is found in any order. -/
theorem member_perm {members members' : List (Glyphs × Json)} (h : members.Perm members')
    (hnodup : (knownNames members).Nodup) : member name members = member name members' := by
  have hcount := List.nodup_iff_count_le_one.mp hnodup name
  rw [count_knownNames hname, List.count, List.countP_map, List.countP_eq_length_filter] at hcount
  have hfilter := h.filter fun x => x.1 == Glyphs.ofString name
  -- a list of at most one member has no other order
  have heq : (members.filter fun x => x.1 == Glyphs.ofString name)
      = members'.filter fun x => x.1 == Glyphs.ofString name := by
    cases hmembers : members.filter fun x => x.1 == Glyphs.ofString name with
    | nil =>
        rw [hmembers] at hfilter
        exact hfilter.nil_eq
    | cons x rest =>
        obtain rfl : rest = [] := by
          rw [Function.comp_def, hmembers] at hcount
          exact List.length_eq_zero_iff.mp (Nat.le_zero.mp (Nat.le_of_succ_le_succ hcount))
        rw [hmembers, List.singleton_perm] at hfilter
        exact hfilter
  rw [member, member, ← List.head?_filter, ← List.head?_filter, heq]

end

theorem ofJson_perm {members members' : List (Glyphs × Json)} (h : members.Perm members') :
    ofJson? (.object members) = ofJson? (.object members') := by
  have hnames : (knownNames members).Perm (knownNames members') := (h.filterMap _).filter _
  rw [ofJson?, ofJson?, h.all_eq, decide_eq_decide.mpr hnames.nodup_iff]
  split
  · rename_i hkeys
    rw [Bool.and_eq_true, decide_eq_true_eq, ← hnames.nodup_iff] at hkeys
    rw [member_perm (by decide) h hkeys.2, member_perm (by decide) h hkeys.2,
      member_perm (by decide) h hkeys.2, member_perm (by decide) h hkeys.2]
  · rfl

theorem knownNames_append (members rest : List (Glyphs × Json)) :
    knownNames (members ++ rest) = knownNames members ++ knownNames rest := by
  rw [knownNames, List.filterMap_append, List.filter_append]
  rfl

/-- Members that no field needs may stand behind the others. -/
theorem ofJson_append {members rest : List (Glyphs × Json)}
    (hkeys : (rest.all fun x => x.1.text?.isSome) = true)
    (hnodup : (knownNames (members ++ rest)).Nodup)
    (hnull : ∀ name ∈ fieldNames, member name rest = .null) :
    ofJson? (.object (members ++ rest)) = ofJson? (.object members) := by
  have hfront : (knownNames members).Nodup := by
    rw [knownNames_append] at hnodup
    exact hnodup.sublist (List.sublist_append_left ..)
  rw [ofJson?, ofJson?, List.all_append, hkeys, decide_eq_true hnodup, decide_eq_true hfront,
    member_append_null (hnull _ (by decide)), member_append_null (hnull _ (by decide)),
    member_append_null (hnull _ (by decide)), member_append_null (hnull _ (by decide)),
    Bool.and_true]

/-! ## The values that stand for a record -/

/-- The values of the four fields, in their order. -/
def values (m : Message) : List (Option Json) :=
  [m.id.map MessageId.toJson, m.text.map Json.ofString, m.summary.map Json.ofString,
    m.created.map Created.toJson]

/-- The field of a name is absent. -/
def Lacks (m : Message) (name : String) : Prop := (name, none) ∈ fieldNames.zip m.values

/-- A member for an absent field. -/
def nullMember (name : String) : Glyphs × Json := (Glyphs.ofString name, .null)

/-- JSON values that stand for a record: the object of its members in any order, with absent
    fields as `null` and members of other names among them, or the array of its values, from
    which absent ones at the end may be missing. -/
inductive Encodes (m : Message) : Json → Prop
  | object {members others : List (Glyphs × Json)} {nulls : List String} (hnodup : nulls.Nodup)
      (hnulls : ∀ name ∈ nulls, m.Lacks name)
      (hothers : ∀ x ∈ others, ∃ name, x.1 = Glyphs.ofString name ∧ name ∉ fieldNames)
      (h : members.Perm (m.members ++ (nulls.map nullMember ++ others))) :
      Encodes m (.object members)
  | array {front : List Json} {n : Nat}
      (h : front ++ List.replicate n .null = m.values.map fun v => v.getD .null) :
      Encodes m (.array front)

/-- A name among those of a record is the name of a field that is present. -/
theorem present_of_mem {m : Message} {name : String} (h : name ∈ knownNames m.members) :
    ∃ v, (name, some v) ∈ fieldNames.zip m.values := by
  obtain ⟨x, hx, hname⟩ := List.mem_filterMap.mp (List.mem_of_mem_filter h)
  have hmembers : m.members = (fieldNames.zip m.values).flatMap fun f => fieldMember f.1 f.2 := rfl
  rw [hmembers, List.mem_flatMap] at hx
  obtain ⟨⟨other, v⟩, hfield, hx⟩ := hx
  obtain ⟨hkey, rfl⟩ := mem_fieldMember hx
  obtain rfl := Glyphs.ofString_inj.mp (hkey.symm.trans (Glyphs.text_eq_some.mp hname))
  exact ⟨x.2, hfield⟩

theorem Lacks.known {m : Message} {name : String} (h : m.Lacks name) :
    name ∈ fieldNames ∧ name ∉ knownNames m.members := by
  refine ⟨(List.of_mem_zip h).1, fun hmem => ?_⟩
  obtain ⟨v, hv⟩ := present_of_mem hmem
  -- the four names are different, so no two values stand under one of them
  simp only [Lacks, fieldNames, values, List.zip_cons_cons, List.zip_nil_left, List.mem_cons,
    Prod.mk.injEq, List.not_mem_nil, or_false] at h hv
  grind

theorem knownNames_nulls {names : List String} (h : ∀ name ∈ names, name ∈ fieldNames) :
    knownNames (names.map nullMember) = names := by
  have hkeys : (fun x : Glyphs × Json => x.1.text?) ∘ nullMember = some :=
    funext Glyphs.text_ofString
  rw [knownNames, List.filterMap_map, hkeys, List.filterMap_some, List.filter_eq_self]
  exact fun name hname => List.contains_iff_mem.mpr (h name hname)

section

variable {others : List (Glyphs × Json)}
  (hothers : ∀ x ∈ others, ∃ name, x.1 = Glyphs.ofString name ∧ name ∉ fieldNames)

include hothers

theorem knownNames_others : knownNames others = [] := by
  rw [knownNames, List.filter_eq_nil_iff]
  intro name hmem
  obtain ⟨x, hx, hname⟩ := List.mem_filterMap.mp hmem
  obtain ⟨other, hkey, hother⟩ := hothers x hx
  rw [hkey, Glyphs.text_ofString] at hname
  obtain rfl := Option.some.inj hname
  rwa [List.contains_iff_mem]

theorem member_others {name : String} (h : name ∈ fieldNames) : member name others = .null := by
  have hnone : (others.find? fun x => x.1 == Glyphs.ofString name) = none := by
    rw [List.find?_eq_none]
    intro x hx hkey
    obtain ⟨other, hother, hunknown⟩ := hothers x hx
    rw [beq_iff_eq, hother, Glyphs.ofString_inj] at hkey
    exact hunknown (hkey ▸ h)
  rw [member, hnone]
  rfl

end

/-- What stands under a name is `null` where all values are. -/
theorem member_nulls (name : String) (names : List String) :
    member name (names.map nullMember) = .null := by
  rw [member, List.find?_map]
  cases names.find? _ with
  | none => rfl
  | some found => rfl

section

variable {m : Message} {others : List (Glyphs × Json)} {nulls : List String}
  (hnodup : nulls.Nodup) (hnulls : ∀ name ∈ nulls, m.Lacks name)
  (hothers : ∀ x ∈ others, ∃ name, x.1 = Glyphs.ofString name ∧ name ∉ fieldNames)

include hothers

theorem keys_added :
    ((nulls.map nullMember ++ others).all fun x => x.1.text?.isSome) = true := by
  rw [List.all_eq_true]
  intro x hx
  rcases List.mem_append.mp hx with hx | hx
  · obtain ⟨name, -, rfl⟩ := List.mem_map.mp hx
    rw [nullMember, Glyphs.text_ofString]
    rfl
  · obtain ⟨name, hkey, -⟩ := hothers x hx
    rw [hkey, Glyphs.text_ofString]
    rfl

include hnodup hnulls

/-- No known name is there twice when absent fields are added to a record. -/
theorem knownNames_added :
    (knownNames (m.members ++ (nulls.map nullMember ++ others))).Nodup := by
  have hknown : ∀ name ∈ nulls, name ∈ fieldNames := fun name hn => (hnulls name hn).known.1
  rw [knownNames_append, knownNames_append, knownNames_nulls hknown, knownNames_others hothers,
    List.append_nil]
  exact m.knownNames_nodup.append hnodup
    fun name hpresent hnull => (hnulls name hnull).known.2 hpresent

theorem decoded_object {members : List (Glyphs × Json)}
    (h : members.Perm (m.members ++ (nulls.map nullMember ++ others))) :
    ofJson? (.object members) = some m := by
  rw [ofJson_perm h, ofJson_append (keys_added hothers) (knownNames_added hnodup hnulls hothers),
    ← toJson_members, ofJson_toJson]
  intro name hname
  rw [member_append_null (member_others hothers hname), member_nulls]

end

theorem decoded_array {m : Message} {front : List Json} {n : Nat}
    (h : front ++ List.replicate n .null = m.values.map fun v => v.getD .null) :
    ofJson? (.array front) = some m := by
  have hlength := congrArg List.length h
  rw [List.length_append, List.length_replicate, List.length_map] at hlength
  have hfour : front.length ≤ 4 := Nat.le.intro hlength
  -- a value that was left off is read as `null`, like one that is there as `null`
  have hvalue : ∀ i, front.getD i .null
      = (m.values.map fun v => v.getD .null).getD i .null := by
    intro i
    rw [← h, List.getD_eq_getElem?_getD, List.getD_eq_getElem?_getD, List.getElem?_append]
    split
    · rfl
    · rename_i hi
      rw [List.getElem?_eq_none (Nat.le_of_not_lt hi), List.getElem?_replicate]
      split
      · rfl
      · rfl
  rw [ofJson?, if_pos hfour, hvalue, hvalue, hvalue, hvalue]
  exact m.ofFields_values

/-- **Every value that stands for a record is decoded as it.** -/
theorem Encodes.decoded {m : Message} {v : Json} (h : m.Encodes v) : ofJson? v = some m := by
  cases h with
  | object hnodup hnulls hothers h => exact decoded_object hnodup hnulls hothers h
  | array h => exact decoded_array h

/-- An object in which a known name stands twice is none of a record. -/
theorem ofJson_repeated {name : String} (hname : name ∈ fieldNames)
    {members : List (Glyphs × Json)}
    (h : 1 < (members.map Prod.fst).count (Glyphs.ofString name)) :
    ofJson? (.object members) = none := by
  have hnames : ¬ (knownNames members).Nodup := by
    intro hnodup
    have hcount := List.nodup_iff_count_le_one.mp hnodup name
    rw [count_knownNames hname] at hcount
    omega
  rw [ofJson?, decide_eq_false hnames, Bool.and_false, if_neg Bool.false_ne_true]

/-! ## Records and their texts -/

theorem write_inj {m m' : Message} (h : m.write = m'.write) : m = m' := by
  have hread := m.read_write
  rw [h, read_write] at hread
  exact (Option.some.inj hread).symm

theorem isEmpty_iff {m : Message} : m.isEmpty = true ↔ m = empty := by
  obtain ⟨id, text, summary, created⟩ := m
  simp [isEmpty, empty, and_assoc]

end Message

/-- **Records are written without loss**: a record and a list of records are read back from their
    text, only the empty record is written as `{}`, and the body of the request that posts a draft
    is read as that draft. -/
theorem records_lossless :
    (∀ m : Message, Message.read? (Glyphs.ofString m.write) = some m) ∧
    (∀ ms : List Message, Message.readList? (Glyphs.ofString (Message.writeList ms)) = some ms) ∧
    (∀ m : Message, m.write = "\x7b\x7d" ↔ m.isEmpty = true) ∧
    ∀ (r : Remote) (draft : Message) (l : Http.Link), ∃ q : Http.Request,
      q.method = .post ∧ Message.read? (Glyphs.ofString q.body) = some draft ∧
      (r.create draft l).2.sent
        = if q.isSendable && l.isUp && q.url.scheme == "http" then l.sent ++ [q] else l.sent := by
  refine ⟨Message.read_write, Message.readList_writeList, fun m => ?_, fun r draft l => ?_⟩
  · have hempty : Message.empty.write = "\x7b\x7d" := rfl
    rw [Message.isEmpty_iff, ← hempty]
    exact ⟨Message.write_inj, congrArg Message.write⟩
  · obtain ⟨hmethod, hbody⟩ := Http.Request.to_kept .post r.collection r.headers draft.write
    refine ⟨.to .post r.collection r.headers draft.write, hmethod, ?_, r.call_sent ..⟩
    rw [hbody]
    exact draft.read_write

/-- **All encodings of a record are read alike**, however their values are spelled; and an object
    in which one of the four names stands twice is not read. -/
theorem encodings_decode_alike :
    (∀ (m : Message) (v : Json) (s : String), m.Encodes v → v.SpelledBy s →
      Message.read? (Glyphs.ofString s) = some m) ∧
    ∀ (name : String) (members : List (Glyphs × Json)) (s : String),
      name ∈ Message.fieldNames → 1 < (members.map Prod.fst).count (Glyphs.ofString name) →
      (Json.object members).SpelledBy s → Message.read? (Glyphs.ofString s) = none := by
  refine ⟨fun m v s hencodes hspelled => ?_, fun name members s hname hcount hspelled => ?_⟩
  · rw [Message.read?, Json.read_spelled hspelled]
    exact hencodes.decoded
  · rw [Message.read?, Json.read_spelled hspelled]
    exact Message.ofJson_repeated hname hcount

/-- A record with its members in another order, a blank, an absent field that is there and a
    member of another name; the same record as an array; and a name that stands twice, once with
    an escape. -/
theorem encodings_decode_alike_mixed :
    Message.read? (Glyphs.ofString
        "\x7b\"text\": \"hi\",\"created\":null,\"x\":[1e+2],\"id\":7\x7d")
      = some { id := some (.number 7), text := some "hi" } ∧
    Message.read? (Glyphs.ofString "[7,\"hi\"]")
      = some { id := some (.number 7), text := some "hi" } ∧
    Message.read? (Glyphs.ofString "\x7b\"id\":1,\"\\u0069d\":2\x7d") = none := by
  have hname : ∀ s : String, (Token.text (Glyphs.ofString s)).SpelledBy _ :=
    fun s => (Token.text_kept s).1.spelled
  have hword : ∀ n : Int, (Token.number (Json.Number.ofInt n)).SpelledBy _ :=
    fun n => (Json.Number.ofInt_proper n).spelled
  refine ⟨encodings_decode_alike.1 _ (.object [(Glyphs.ofString "text", Json.ofString "hi"),
      Message.nullMember "created",
      (Glyphs.ofString "x", .array [.number ⟨false, ['1'], none, some 2⟩]),
      (Glyphs.ofString "id", Json.ofInt 7)]) _ ?_ ?_,
    encodings_decode_alike.1 _ (.array [Json.ofInt 7, Json.ofString "hi"]) _ ?_ ?_,
    encodings_decode_alike.2 "id"
      [(Glyphs.ofString "id", Json.ofInt 1), (Glyphs.ofString "id", Json.ofInt 2)] _
      (by decide) (by decide) ?_⟩
  · refine @Message.Encodes.object _ _
      [(Glyphs.ofString "x", .array [.number ⟨false, ['1'], none, some 2⟩])] ["created"]
      (by decide) ?_ ?_ (List.perm_append_singleton (Glyphs.ofString "id", Json.ofInt 7)
        [(Glyphs.ofString "text", Json.ofString "hi"), _, _])
    · intro name hname
      rw [List.mem_singleton.mp hname, Message.Lacks]
      simp [Message.fieldNames, Message.values]
    · intro x hx
      rw [List.mem_singleton.mp hx]
      exact ⟨"x", rfl, by decide⟩
  · have hundred : (Token.number ⟨false, ['1'], none, some 2⟩).SpelledBy
        ['1', 'e', '+', '2'] :=
      ⟨⟨List.all_eq_true.mp rfl, Or.inr ⟨'1', [], rfl, by decide⟩, fun _ h => nomatch h⟩,
        ['e', '+', '2'], rfl, .plus (Or.inl rfl) ⟨by decide, List.all_eq_true.mp rfl, rfl⟩⟩
    simp only [Json.SpelledBy, Glyphs.ofString, String.reduceToList]
    refine .token (w := ['\x7b']) rfl ?_
    refine .token (hname "text") (.token (w := [':']) rfl (.blank rfl (.token (hname "hi")
      (.token (w := [',']) rfl ?_))))
    refine .token (hname "created") (.token (w := [':']) rfl (.token (w := ['n', 'u', 'l', 'l']) rfl
      (.token (w := [',']) rfl ?_)))
    refine .token (hname "x") (.token (w := [':']) rfl (.token (w := ['[']) rfl (.token hundred
      (.token (w := [']']) rfl (.token (w := [',']) rfl ?_)))))
    exact .token (hname "id") (.token (w := [':']) rfl (.token (hword 7)
      (.token (w := ['\x7d']) rfl .nil)))
  · exact .array (n := 2) rfl
  · simp only [Json.SpelledBy, Glyphs.ofString, String.reduceToList]
    exact .token (w := ['[']) rfl (.token (hword 7) (.token (w := [',']) rfl (.token (hname "hi")
      (.token (w := [']']) rfl .nil))))
  · have hcode : Json.IsHex4 ['0', '0', '6', '9'] 'i'.toNat :=
      ⟨rfl, List.all_eq_true.mp rfl, rfl⟩
    have hescaped : (Token.text (Glyphs.ofString "id")).SpelledBy
        ['"', '\\', 'u', '0', '0', '6', '9', 'd', '"'] :=
      ⟨['\\', 'u', '0', '0', '6', '9', 'd'], rfl, .code hcode (Json.spells_chars ['d'])⟩
    simp only [Json.SpelledBy, Glyphs.ofString, String.reduceToList]
    refine .token (w := ['\x7b']) rfl ?_
    refine .token (hname "id") (.token (w := [':']) rfl (.token (hword 1)
      (.token (w := [',']) rfl ?_)))
    exact .token hescaped (.token (w := [':']) rfl (.token (hword 2)
      (.token (w := ['\x7d']) rfl .nil)))

end Postbox
