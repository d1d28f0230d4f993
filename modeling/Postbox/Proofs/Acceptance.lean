import Postbox.Proofs.Encoding
import Postbox.Proofs.Json.Grammar
import Postbox.Proofs.Reply
import Postbox.Proofs.Steps

/-! # Acceptance — what is taken for a record

    There are three readers of replies, and they decide by the value of the body alone.
    The one of the reply to a saved draft takes less of the documents than the others,
    those that can be held as they are (`Json.Plain`), and on these it gives what the
    two others give (`replies_read_alike`).

    What is taken for a record is an object, or an array of up to four values such as a
    field has (`Message.IsRecord`): the decoder goes by position where there are no
    names.  So an array of scalars is a record or a list of records, as the case may be,
    and only what has another shape is refused (`records_recognized`). -/

namespace Postbox

open Json (Glyphs Token)

namespace Json

/-! ## Plain values -/

/-- A value that can be held as it is: its texts are proper, its numbers are finite, and at
    most 127 of its containers lie within each other. -/
def Plain (v : Json) : Prop := (∀ t ∈ v.tokens, t.isPlain = true) ∧ v.depth ≤ 127

/-- The tokens of a value tell whether it is plain. -/
theorem isPlain_tokens {v : Json} : isPlain v.tokens = true ↔ v.Plain := by
  rw [isPlain, Bool.and_eq_true, List.all_eq_true, decide_eq_true_eq, nesting_tokens, Plain]

/-- What is read from tokens that are plain is a plain value. -/
theorem plain_of_read {s : Glyphs} {v : Json}
    (h : ((lex s).filter isPlain).bind assemble = some v) : read? s = some v ∧ v.Plain := by
  obtain ⟨ts, hts, hread⟩ := Option.bind_eq_some_iff.mp h
  obtain ⟨hlex, hplain⟩ := Option.filter_eq_some_iff.mp hts
  obtain rfl := assemble_eq_some.mp hread
  refine ⟨?_, isPlain_tokens.mp hplain⟩
  rw [read?, hlex]
  exact hread

/-- **Plain values are read as by the other reader**, and no others. -/
theorem plain_read_eq_some {s : Glyphs} {v : Json} :
    ((lex s).filter isPlain).bind assemble = some v ↔ read? s = some v ∧ v.Plain := by
  refine ⟨plain_of_read, fun ⟨hread, hplain⟩ => ?_⟩
  obtain ⟨ts, hlex, hassemble⟩ := Option.bind_eq_some_iff.mp hread
  obtain rfl := assemble_eq_some.mp hassemble
  rw [hlex, Option.filter_some, if_pos (isPlain_tokens.mpr hplain)]
  exact hassemble

/-! ## Bodies of blanks -/

/-- A token has a first character, which is no blank of any kind. -/
theorem Token.SpelledBy.front {w : List Char} {t : Token} (ht : t.SpelledBy w) :
    ∃ c ∈ w, Text.isBlank c = false := by
  cases t with
  | number n =>
      obtain ⟨c, cs, rfl, hc⟩ := Number.SpelledBy.head ht
      refine ⟨c, List.mem_cons_self, ?_⟩
      rcases hc with rfl | hc
      · rfl
      · obtain ⟨hlow, hhigh⟩ := Char.isDigit_iff_toNat.mp hc
        have hzero : 48 ≤ c.toNat := hlow
        have hnine : c.toNat ≤ 57 := hhigh
        simp only [Text.isBlank, Bool.or_eq_false_iff, Bool.and_eq_false_iff, beq_eq_false_iff_ne,
          decide_eq_false_iff_not]
        omega
  | text g =>
      obtain ⟨s, rfl, -⟩ := ht
      exact ⟨'"', List.mem_cons_self, rfl⟩
  | bool b => cases b with
    | true => exact ⟨'t', by rw [ht]; decide, rfl⟩
    | false => exact ⟨'f', by rw [ht]; decide, rfl⟩
  | null => exact ⟨'n', by rw [ht]; decide, rfl⟩
  | openArray => exact ⟨'[', by rw [ht]; decide, rfl⟩
  | closeArray => exact ⟨']', by rw [ht]; decide, rfl⟩
  | openObject => exact ⟨'\x7b', by rw [ht]; decide, rfl⟩
  | closeObject => exact ⟨'\x7d', by rw [ht]; decide, rfl⟩
  | comma => exact ⟨',', by rw [ht]; decide, rfl⟩
  | colon => exact ⟨':', by rw [ht]; decide, rfl⟩

/-- What spells a token is not all blanks. -/
theorem Spells.front {s : Glyphs} {ts : List Token} (h : Spells s ts) (hts : ts ≠ []) :
    ∃ c : Char, some c ∈ s ∧ Text.isBlank c = false := by
  induction h with
  | nil => exact absurd rfl hts
  | blank _ _ ih =>
      obtain ⟨c, hmem, hc⟩ := ih hts
      exact ⟨c, List.mem_cons_of_mem _ hmem, hc⟩
  | token ht _ _ =>
      obtain ⟨c, hmem, hc⟩ := ht.front
      exact ⟨c, List.mem_append_left _ (List.mem_map_of_mem hmem), hc⟩

/-- A value has a token. -/
theorem tokens_ne_nil (v : Json) : v.tokens ≠ [] := by
  cases v with
  | _ => exact List.cons_ne_nil _ _

/-- Blanks spell no value. -/
theorem not_spelledBy_blank {s : String} (hs : ∀ c ∈ s.toList, Text.isBlank c = true) (v : Json) :
    ¬ v.SpelledBy s := by
  intro h
  obtain ⟨c, hmem, hc⟩ := h.front v.tokens_ne_nil
  obtain ⟨d, hd, heq⟩ := List.mem_map.mp hmem
  obtain rfl := Option.some.inj heq
  rw [hs d hd] at hc
  exact nomatch hc

end Json

namespace Message

/-! ## The reply to a saved draft -/

/-- A plain document holds what the reader of lists gives, or else that of one message. -/
theorem ofReply_plain {body : String} {v : Json} (h : v.SpelledBy body) (hplain : v.Plain) :
    ofReply (Glyphs.ofString body)
      = match readList? (Glyphs.ofString body), read? (Glyphs.ofString body) with
        | some ms, _ => ms
        | none, some m => [m]
        | none, none => [] := by
  have hread := Json.read_spelled h
  rw [ofReply, Json.plain_read_eq_some.mpr ⟨hread, hplain⟩, readList?, read?, hread]
  show (listOfJson? v <|> (ofJson? v).map ([·])).getD []
    = match listOfJson? v, ofJson? v with
      | some ms, _ => ms
      | none, some m => [m]
      | none, none => []
  cases listOfJson? v with
  | some ms => rfl
  | none => cases ofJson? v with
    | some m => rfl
    | none => rfl

/-- A body that is no plain document holds nothing. -/
theorem ofReply_other {body : String} (h : ∀ v : Json, v.SpelledBy body → ¬ v.Plain) :
    ofReply (Glyphs.ofString body) = [] := by
  have hnone : ((Json.lex (Glyphs.ofString body)).filter Json.isPlain).bind Json.assemble
      = none := by
    rw [Option.eq_none_iff_forall_ne_some]
    intro v hread
    obtain ⟨hv, hplain⟩ := Json.plain_of_read hread
    exact h v (Json.read_eq_some.mp hv) hplain
  rw [ofReply, hnone]
  rfl

/-- A record can be held as it is. -/
theorem plain_toJson (m : Message) : m.toJson.Plain :=
  ⟨fun t ht => (m.tokens_kept t ht).2, Nat.le_trans m.depth_le (by decide)⟩

/-- The text of a record is an object. -/
theorem spelled_write (m : Message) : m.toJson.SpelledBy m.write :=
  Json.spelled_write fun t ht => (m.tokens_kept t ht).1

/-- The reply that is a record holds it. -/
theorem ofReply_write (m : Message) : ofReply (Glyphs.ofString m.write) = [m] := by
  have hlist : readList? (Glyphs.ofString m.write) = none := by
    rw [readList?, Json.read_spelled m.spelled_write]
    rfl
  rw [ofReply_plain m.spelled_write m.plain_toJson, hlist, m.read_write]

end Message

/-- **The reply to a saved draft is read as the other replies are.**  A plain document holds
    what the reader of lists gives, else what the reader of one message gives, else nothing;
    blanks, and what is no document, hold nothing.  So the reply that is a list of records, or
    one record, holds just these. -/
theorem replies_read_alike :
    (∀ (body : String) (v : Json), v.SpelledBy body → v.Plain →
      Message.ofReply (Glyphs.ofString body)
        = match Message.readList? (Glyphs.ofString body), Message.read? (Glyphs.ofString body) with
          | some ms, _ => ms
          | none, some m => [m]
          | none, none => []) ∧
    (∀ body : String,
      (∀ c ∈ body.toList, Text.isBlank c = true) ∨ (∀ v : Json, ¬ v.SpelledBy body) →
      Message.ofReply (Glyphs.ofString body) = []) ∧
    (∀ ms : List Message, Message.ofReply (Glyphs.ofString (Message.writeList ms)) = ms) ∧
    ∀ m : Message, Message.ofReply (Glyphs.ofString m.write) = [m] := by
  refine ⟨fun body v => Message.ofReply_plain, fun body hbody => ?_, Message.ofReply_writeList,
    Message.ofReply_write⟩
  refine Message.ofReply_other fun v hv => ?_
  rcases hbody with hblank | hnone
  · exact absurd hv (Json.not_spelledBy_blank hblank v)
  · exact absurd hv (hnone v)

/-- An array of a number and `null` is no list of records, but the reader of one message takes
    it by position, and so does that of replies; a space that is none of JSON's holds nothing. -/
theorem replies_read_alike_position :
    Message.ofReply (Glyphs.ofString "[1,null]") = [{ id := some (.number 1) }] ∧
      Message.ofReply (Glyphs.ofString "\u00a0") = [] := by
  have hword : (Token.number (Json.Number.ofInt 1)).SpelledBy ['1'] :=
    (Json.Number.ofInt_proper 1).spelled
  have hspelled : (Json.array [Json.ofInt 1, .null]).SpelledBy "[1,null]" := by
    simp only [Json.SpelledBy, Glyphs.ofString, String.reduceToList]
    exact .token (w := ['[']) rfl (.token hword (.token (w := [',']) rfl
      (.token (w := ['n', 'u', 'l', 'l']) rfl (.token (w := [']']) rfl .nil))))
  refine ⟨?_, replies_read_alike.2.1 "\u00a0" (Or.inl (List.all_eq_true.mp (by decide)))⟩
  rw [replies_read_alike.1 _ _ hspelled (Json.isPlain_tokens.mp (by decide)), Message.readList?,
    Message.read?, Json.read_spelled hspelled]
  rfl

namespace Message

/-! ## The shape of a record -/

/-- The values that a field is read from: `null`, a whole number of 64 bits, or a text. -/
inductive IsField : Json → Prop
  | null : IsField .null
  | word {n : Json.Number} {w : Int64} (h : n.int64? = some w) : IsField (.number n)
  | text (s : String) : IsField (Json.ofString s)

/-- The values that a record is read from: an object, or an array of up to four values that
    fields are read from. -/
inductive IsRecord : Json → Prop
  | object (members : List (Glyphs × Json)) : IsRecord (.object members)
  | array {vs : List Json} (hlength : vs.length ≤ 4) (hfields : ∀ v ∈ vs, IsField v) :
      IsRecord (.array vs)

/-- A field is read only from what fields are read from. -/
theorem isField_of_optional {α : Type} {read : Json → Option α}
    (hread : ∀ v a, read v = some a → IsField v) {v : Json} {o : Option α}
    (h : optional read v = some o) : IsField v := by
  unfold optional at h
  split at h
  · exact .null
  · obtain ⟨a, ha, -⟩ := Option.map_eq_some_iff.mp h
    exact hread v a ha

theorem isField_of_text {g : Glyphs} {s : String} (h : g.text? = some s) : IsField (.text g) := by
  rw [Glyphs.text_eq_some.mp h]
  exact .text s

theorem isField_of_id (v : Json) (id : MessageId) (h : MessageId.ofJson? v = some id) :
    IsField v := by
  cases v with
  | number n =>
      obtain ⟨w, hw, -⟩ := Option.map_eq_some_iff.mp h
      exact .word hw
  | text g =>
      obtain ⟨s, hs, -⟩ := Option.map_eq_some_iff.mp h
      exact isField_of_text hs
  | _ => exact nomatch h

theorem isField_of_created (v : Json) (c : Created) (h : Created.ofJson? v = some c) :
    IsField v := by
  cases v with
  | number n =>
      obtain ⟨w, hw, -⟩ := Option.map_eq_some_iff.mp h
      exact .word hw
  | text g =>
      obtain ⟨s, hs, -⟩ := Option.map_eq_some_iff.mp h
      exact isField_of_text hs
  | _ => exact nomatch h

theorem isField_of_textField (v : Json) (s : String) (h : textField? v = some s) :
    IsField v := by
  cases v with
  | text g => exact isField_of_text h
  | _ => exact nomatch h

/-- All four values that make up a message are such that fields are read from. -/
theorem isField_of_ofFields {id text summary created : Json} {m : Message}
    (h : ofFields? id text summary created = some m) :
    ∀ v ∈ [id, text, summary, created], IsField v := by
  simp only [ofFields?, Option.bind_eq_bind, Option.bind_eq_some_iff] at h
  obtain ⟨_, hid, _, htext, _, hsummary, _, hcreated, -⟩ := h
  simp only [List.forall_mem_cons]
  exact ⟨isField_of_optional isField_of_id hid, isField_of_optional isField_of_textField htext,
    isField_of_optional isField_of_textField hsummary,
    isField_of_optional isField_of_created hcreated, List.forall_mem_nil _⟩

/-- **A message is read only from a value of the shape of a record.** -/
theorem isRecord_of_ofJson {v : Json} {m : Message} (h : ofJson? v = some m) : IsRecord v := by
  cases v with
  | object members => exact .object members
  | array vs =>
      obtain ⟨hlength, hfields⟩ := Option.ite_none_right_eq_some.mp h
      have hall := isField_of_ofFields hfields
      refine .array hlength fun v hv => ?_
      obtain ⟨i, hi, rfl⟩ := List.getElem_of_mem hv
      refine hall _ ?_
      have hvalue : vs[i] = vs.getD i .null := by
        rw [List.getD_eq_getElem?_getD, List.getElem?_eq_getElem hi]
        rfl
      rw [hvalue]
      match i, Nat.lt_of_lt_of_le hi hlength with
      | 0, _ | 1, _ | 2, _ | 3, _ => simp
  | _ => exact nomatch h

/-- A list of messages is read only from an array, from each element one. -/
theorem isRecord_of_listOfJson {v : Json} {ms : List Message} (h : listOfJson? v = some ms) :
    ∃ vs, v = .array vs ∧ vs.length = ms.length ∧ ∀ w ∈ vs, IsRecord w := by
  cases v with
  | array vs =>
      refine ⟨vs, rfl, ?_⟩
      have hall : vs.mapM ofJson? = some ms := h
      clear h
      induction vs generalizing ms with
      | nil =>
          obtain rfl := Option.some.inj hall
          exact ⟨rfl, List.forall_mem_nil _⟩
      | cons w vs ih =>
          simp only [List.mapM_cons, Option.bind_eq_bind, Option.bind_eq_some_iff,
            Option.pure_def, Option.some.injEq] at hall
          obtain ⟨m, hm, rest, hrest, rfl⟩ := hall
          obtain ⟨hlength, hshape⟩ := ih hrest
          exact ⟨congrArg (· + 1) hlength,
            List.forall_mem_cons.mpr ⟨isRecord_of_ofJson hm, hshape⟩⟩
  | _ => exact nomatch h

/-- What a reply to a saved draft holds is a record, or a list of records. -/
theorem isRecord_of_ofReply {g : Glyphs} (h : ofReply g ≠ []) :
    ∃ v, Json.read? g = some v ∧ (IsRecord v ∧ (ofReply g).length = 1 ∨
      ∃ vs, v = .array vs ∧ vs.length = (ofReply g).length ∧ ∀ w ∈ vs, IsRecord w) := by
  generalize hms : ofReply g = ms at h ⊢
  rw [ofReply] at hms
  cases hread : ((Json.lex g).filter Json.isPlain).bind Json.assemble with
  | none =>
      rw [hread] at hms
      exact absurd hms.symm h
  | some v =>
      rw [hread] at hms
      refine ⟨v, (Json.plain_of_read hread).1, ?_⟩
      have hheld : (listOfJson? v <|> (ofJson? v).map ([·])).getD [] = ms := hms
      cases hlist : listOfJson? v with
      | some found =>
          rw [hlist] at hheld
          obtain rfl : found = ms := hheld
          exact Or.inr (isRecord_of_listOfJson hlist)
      | none =>
          rw [hlist] at hheld
          cases hone : ofJson? v with
          | some m =>
              rw [hone] at hheld
              obtain rfl : [m] = ms := hheld
              exact Or.inl ⟨isRecord_of_ofJson hone, rfl⟩
          | none =>
              rw [hone] at hheld
              exact absurd hheld.symm h

end Message

/-! ## Replies -/

/-- A good reply brings the bytes of its complete body; one of status 204 brings none,
    whatever follows the status. -/
inductive Http.Delivery.Brings : Http.Delivery → List UInt8 → Prop
  | whole {code : Nat} (bytes : List UInt8) (good : 200 ≤ code ∧ code ≤ 299)
      (embodied : code ≠ 204) : Brings (.reply code (.whole bytes)) bytes
  | bodiless (body : Http.Body) : Brings (.reply 204 body) []

namespace Remote

/-- What is not answered with a fault has brought a body. -/
theorem brings_of_answer {r : Remote} {u : Url} {broken : ReplyProblem} {d : Http.Delivery}
    {bytes : List UInt8} (h : r.answer u broken d = .ok bytes) : d.Brings bytes := by
  cases d with
  | noConnection => cases h
  | silence => cases h
  | reply code body =>
      by_cases good : 200 ≤ code ∧ code ≤ 299
      · rw [answer, (Http.isSuccess_iff code).mpr good] at h
        by_cases hcode : code = 204
        · subst hcode
          obtain rfl := Except.ok.inj h
          exact .bodiless body
        · rw [Http.hasBody_of_good good hcode] at h
          cases body with
          | whole found =>
              obtain rfl := Except.ok.inj h
              exact .whole found good hcode
          | stalled => cases h
          | brokenOff => cases h
      · have hbad : Http.isSuccess code = false :=
          Bool.eq_false_iff.mpr fun h => good ((Http.isSuccess_iff code).mp h)
        rw [answer, hbad] at h
        cases h

/-- **A call is answered only by what is read from a body** that the next delivery brings. -/
theorem brings_of_call {α : Type} {r : Remote} {method : Http.Method} {u : Url} {body : String}
    {broken : ReplyProblem} {read : List UInt8 → Option α} {l : Http.Link} {a : α}
    (h : (r.call method u body broken read l).1 = .ok a) :
    ∃ bytes, (l.deliveries.headD .exhausted).Brings bytes ∧ read bytes = some a := by
  rw [call] at h
  dsimp only at h
  split at h
  · cases h
  · rw [Http.Link.exchange] at h
    split at h
    · obtain ⟨bytes, hanswer, hread⟩ := bind_eq_ok.mp h
      refine ⟨bytes, brings_of_answer hanswer, ?_⟩
      split at hread
      · rename_i found hfound
        rw [hfound, Except.ok.inj hread]
      · cases hread
    · cases h

end Remote

/-- **Records are recognized by their shape.**  A message is got only from a body that is an
    object, or an array of up to four values that fields are read from; messages are listed
    only from an array of such values, as many as there are messages; and the reply to a saved
    draft holds messages only if it is one such value, and then one message, or an array of
    them.  For a body that is a text, the value that is read is the one that the text spells. -/
theorem records_recognized (r : Remote) (l : Http.Link) :
    (∀ (id : MessageId) (m : Message), (r.get id l).1 = .ok m →
      ∃ bytes v, (l.deliveries.headD .exhausted).Brings bytes ∧
        Json.read? (Text.ofUtf8 bytes) = some v ∧ Message.IsRecord v) ∧
    (∀ ms : List Message, (r.list l).1 = .ok ms →
      ∃ bytes vs, (l.deliveries.headD .exhausted).Brings bytes ∧
        Json.read? (Text.ofUtf8 bytes) = some (.array vs) ∧ vs.length = ms.length ∧
        ∀ v ∈ vs, Message.IsRecord v) ∧
    (∀ (draft : Message) (ms : List Message), (r.create draft l).1 = .ok ms → ms ≠ [] →
      ∃ bytes v, (l.deliveries.headD .exhausted).Brings bytes ∧
        Json.read? ((Text.ofUtf8Lossy bytes).map some) = some v ∧
        (Message.IsRecord v ∧ ms.length = 1 ∨
          ∃ vs, v = .array vs ∧ vs.length = ms.length ∧ ∀ w ∈ vs, Message.IsRecord w)) ∧
    ∀ (body : String) (v : Json),
      Json.read? (Text.ofUtf8 (Text.utf8 body.toList)) = some v ↔ v.SpelledBy body := by
  refine ⟨fun id m h => ?_, fun ms h => ?_, fun draft ms h hms => ?_, fun body v => ?_⟩
  -- an id without an address is an error before anything is sent
  · rw [Remote.get] at h
    cases hu : r.messageUrl id with
    | error e =>
        rw [hu] at h
        cases h
    | ok u =>
        rw [hu] at h
        obtain ⟨bytes, hbytes, hread⟩ := Remote.brings_of_call h
        obtain ⟨v, hv, hm⟩ := Option.bind_eq_some_iff.mp hread
        exact ⟨bytes, v, hbytes, hv, Message.isRecord_of_ofJson hm⟩
  · obtain ⟨bytes, hbytes, hread⟩ := Remote.brings_of_call h
    obtain ⟨v, hv, hlist⟩ := Option.bind_eq_some_iff.mp hread
    obtain ⟨vs, rfl, hlength, hshape⟩ := Message.isRecord_of_listOfJson hlist
    exact ⟨bytes, vs, hbytes, hv, hlength, hshape⟩
  · obtain ⟨bytes, hbytes, hread⟩ := Remote.brings_of_call h
    obtain rfl := Option.some.inj hread
    obtain ⟨v, hv, hshape⟩ := Message.isRecord_of_ofReply hms
    exact ⟨bytes, v, hbytes, hv, hshape⟩
  · rw [Text.ofUtf8_utf8]
    exact Json.read_eq_some

/-- A link with one reply to deliver, a text. -/
def Http.Link.bringing (body : String) : Http.Link :=
  { deliveries := [.reply 200 (.whole (Text.utf8 body.toList))] }

namespace Remote

variable {body : String}

/-- The collection at the loop-back host is listed by what is read. -/
theorem loopback_listed {ms : List Message}
    (h : Message.readList? (Glyphs.ofString body) = some ms) :
    (loopback.list (.bringing body)).1 = .ok ms := by
  rw [Glyphs.ofString, ← Text.ofUtf8_utf8] at h
  exact congrArg Prod.fst (call_ok (loopback_list _ rfl) rfl rfl rfl h)

/-- A message of the collection at the loop-back host is got by what is read. -/
theorem loopback_got {m : Message} (h : Message.read? (Glyphs.ofString body) = some m) :
    (loopback.get (.number 1) (.bringing body)).1 = .ok m := by
  have hq : (Http.Request.to .get (.loopback (.segments ["rest", "1"])) loopback.headers
      "").isSendable = true := (loopback_isSendable .get _ _ "").trans (by decide)
  rw [Glyphs.ofString, ← Text.ofUtf8_utf8] at h
  exact congrArg Prod.fst (call_ok hq rfl rfl rfl h)

/-- A draft saved at the loop-back host holds what is read from the reply. -/
theorem loopback_saved (draft : Message) : (loopback.create draft (.bringing body)).1
    = .ok (Message.ofReply (Glyphs.ofString body)) := by
  have hq := loopback_create draft _ ⟨draft.write, rfl, draft.read_write⟩
  refine congrArg Prod.fst (call_ok hq rfl rfl rfl ?_)
  rw [Text.ofUtf8Lossy_utf8]
  rfl

end Remote

/-- A list of one empty record at the loop-back host. -/
theorem records_recognized_loopback :
    let l : Http.Link := .bringing (Message.writeList [.empty])
    (Remote.loopback.list l).1 = .ok [.empty] ∧
      ∃ bytes vs, (l.deliveries.headD .exhausted).Brings bytes ∧
        Json.read? (Text.ofUtf8 bytes) = some (.array vs) ∧ vs.length = 1 ∧
        ∀ v ∈ vs, Message.IsRecord v := by
  have hlisted := Remote.loopback_listed (Message.readList_writeList [.empty])
  exact ⟨hlisted, (records_recognized .loopback _).2.1 _ hlisted⟩

/-- **Arrays are taken for records.**  A message is got from the body `[null]`, one is listed
    from `[[]]`, and a draft is saved as one that is named by the reply `["ok"]`, though no
    object is among these values. -/
theorem arrays_taken_for_records :
    (Remote.loopback.get (.number 1) (.bringing "[null]")).1 = .ok .empty ∧
      Json.read? (Text.ofUtf8 (Text.utf8 "[null]".toList)) = some (.array [.null]) ∧
      (Remote.loopback.list (.bringing "[[]]")).1 = .ok [.empty] ∧
      Json.read? (Text.ofUtf8 (Text.utf8 "[[]]".toList)) = some (.array [.array []]) ∧
      (Remote.loopback.create .empty (.bringing "[\"ok\"]")).1
        = .ok [{ id := some (.text "ok") }] ∧
      Json.read? (Text.ofUtf8 (Text.utf8 "[\"ok\"]".toList))
        = some (.array [Json.ofString "ok"]) := by
  have hnull : Json.read? (Glyphs.ofString "[null]") = some (.array [.null]) :=
    Json.read_write (.array [.null]) (by simp [Json.tokens, Json.elementTokens, Token.IsProper])
  have hempty : Json.read? (Glyphs.ofString "[[]]") = some (.array [.array []]) :=
    Json.read_write (.array [.array []])
      (by simp [Json.tokens, Json.elementTokens, Token.IsProper])
  have hok : (Json.array [Json.ofString "ok"]).SpelledBy "[\"ok\"]" := by
    refine Json.spelled_write (v := .array [Json.ofString "ok"]) ?_
    simp [Json.tokens, Json.elementTokens, Token.IsProper, Json.ofString]
  have hplain : (Json.array [Json.ofString "ok"]).Plain := Json.isPlain_tokens.mp (by decide)
  simp only [Text.ofUtf8_utf8]
  refine ⟨Remote.loopback_got ?_, hnull, Remote.loopback_listed ?_, hempty, ?_,
    Json.read_spelled hok⟩
  · rw [Message.read?, hnull]
    rfl
  · rw [Message.readList?, hempty]
    rfl
  · rw [Remote.loopback_saved, Message.ofReply_plain hok hplain, Message.readList?,
      Message.read?, Json.read_spelled hok]
    rfl

end Postbox
