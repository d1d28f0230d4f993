import Postbox.Proofs.Memory.Uses

/-! # Numbering — drafts taken by a collection in memory

    The drafts that a collection in memory takes are numbered on from the largest number
    that is there.

    The invariant is that no number in the collection exceeds the last one given
    (`Memory.Counted`).  It holds of every beginning, also where all numbers are negative,
    where some are there twice and where some ids are texts; and each use that keeps the
    messages keeps it.  So the next number is new, as long as there is one.  A message is
    looked for from the beginning, so a new number finds its own record, now and after all
    that is done later. -/

namespace Postbox

namespace Memory

/-! ## No number exceeds the last one given -/

/-- The count is a number at least, and no number in the collection exceeds it. -/
structure Counted (m : Memory) : Prop where
  least : Int64.minValue.toInt ≤ m.lastId
  most : ∀ message ∈ m.messages, ∀ k, message.id = some (.number k) → k.toInt ≤ m.lastId

/-- The largest number of some messages, or zero where there is none. -/
def largest (messages : List Message) : Int := ((messages.filterMap numericId?).max?).getD 0

/-- No number in a collection exceeds its largest. -/
theorem le_largest {messages : List Message} {message : Message} {k : Int64}
    (h : message ∈ messages) (hid : message.id = some (.number k)) :
    k.toInt ≤ largest messages := by
  have hmem : k.toInt ∈ messages.filterMap numericId? := by
    refine List.mem_filterMap.mpr ⟨message, h, ?_⟩
    rw [numericId?, hid]
  rw [largest]
  cases hmax : (messages.filterMap numericId?).max? with
  | none =>
      rw [List.max?_eq_none_iff.mp hmax] at hmem
      exact nomatch hmem
  | some top => exact (List.max?_eq_some_iff.mp hmax).2 _ hmem

/-- The largest number of a collection is a number, or it is zero. -/
theorem minValue_le_largest (messages : List Message) :
    Int64.minValue.toInt ≤ largest messages := by
  rw [largest]
  cases hmax : (messages.filterMap numericId?).max? with
  | none => decide
  | some top =>
      have hmem := (List.max?_eq_some_iff.mp hmax).1
      obtain ⟨message, -, hid⟩ := List.mem_filterMap.mp hmem
      rw [numericId?] at hid
      split at hid
      next k _ =>
        obtain rfl := Option.some.inj hid
        exact k.minValue_le_toInt
      next => exact nomatch hid

/-- Every collection begins counted. -/
theorem counted_ofMessages (messages : List Message) (clock : Int64) :
    (ofMessages messages clock).Counted where
  least := minValue_le_largest messages
  most := fun _ h _ hid => le_largest h hid

/-- The next number is one more than the last, as long as there is one. -/
theorem Counted.toInt_next {m : Memory} (h : m.Counted)
    (room : m.lastId < Int64.maxValue.toInt) :
    (Int64.ofInt (m.lastId + 1)).toInt = m.lastId + 1 := by
  have hleast := h.least
  rw [show Int64.minValue.toInt = -2 ^ 63 from by decide] at hleast
  rw [show Int64.maxValue.toInt = 2 ^ 63 - 1 from by decide] at room
  exact Int64.toInt_ofInt_of_le (by omega) (by omega)

/-- The next number never exceeds the next count: numbers that begin anew are small. -/
theorem Counted.toInt_next_le {m : Memory} (h : m.Counted) :
    (Int64.ofInt (m.lastId + 1)).toInt ≤ m.lastId + 1 := by
  by_cases room : m.lastId < Int64.maxValue.toInt
  · exact Int.le_of_eq (h.toInt_next room)
  · have htop := (Int64.ofInt (m.lastId + 1)).toInt_le
    omega

/-- Another collection of the same messages and count is as counted. -/
theorem Counted.same {m m' : Memory} (h : m.Counted) (messages : m'.messages = m.messages)
    (lastId : m'.lastId = m.lastId) : m'.Counted where
  least := by
    rw [lastId]
    exact h.least
  most := by
    rw [messages, lastId]
    exact h.most

/-- A call leaves the collection counted. -/
theorem Answered.counted {m m' : Memory} {e : Event} (h : m.Answered e m') (hm : m.Counted) :
    m'.Counted := by
  cases h with
  | failed _ _ _ => exact hm.same rfl rfl
  | listed _ => exact hm.same rfl rfl
  | found _ _ => exact hm.same rfl rfl
  | missing _ _ => exact hm.same rfl rfl
  | @taken draft _ =>
      refine ⟨Int.le_trans hm.least (Int.le_of_lt (Int.lt_succ _)), ?_⟩
      intro message hmem k hid
      show k.toInt ≤ m.lastId + 1
      rcases List.mem_append.mp hmem with hold | hnew
      · have hmost := hm.most message hold k hid
        omega
      · rw [List.mem_singleton.mp hnew] at hid
        obtain rfl : Int64.ofInt (m.lastId + 1) = k :=
          MessageId.number.inj (Option.some.inj hid)
        exact hm.toInt_next_le

/-- A use that keeps the messages leaves the collection counted. -/
theorem Counted.use {m : Memory} (hm : m.Counted) {u : Use} (h : u.keeps = true) :
    (m.use u).2.Counted := by
  cases u with
  | call c => exact (answered (service.answers_ask c m)).counted hm
  | setMessages messages => exact nomatch h
  | fail operation fault => exact hm.same rfl rfl
  | clearFailures => exact hm.same rfl rfl
  | clearCalls => exact hm.same rfl rfl
  | wait now => exact hm.same rfl rfl

/-- All uses that keep the messages leave the collection counted. -/
theorem Counted.uses {m : Memory} (hm : m.Counted) {us : List Use}
    (h : ∀ u ∈ us, u.keeps = true) : (m.uses us).2.Counted := by
  induction us generalizing m with
  | nil => exact hm
  | cons u rest ih => exact ih (hm.use (h u (.head _))) fun v hv => h v (.tail _ hv)

/-! ## What becomes of a draft -/

/-- In all uses, what is taken for a draft is its record alone. -/
theorem uses_filed {us : List Use} {m : Memory} {draft : Message} {ms : List Message}
    (h : Event.posted draft (.ok ms) ∈ (m.uses us).1) : ∃ n now, ms = [draft.filed n now] := by
  induction us generalizing m with
  | nil => exact nomatch h
  | cons u rest ih =>
      rcases List.mem_append.mp h with hfirst | hrest
      · cases u with
        | call c =>
            have hanswered := answered (service.answers_ask c m)
            rw [← List.mem_singleton.mp hfirst] at hanswered
            exact hanswered.filed
        | _ => exact nomatch hfirst
      · exact ih hrest

/-- The records that drafts have become have numbers. -/
theorem number_of_mem_savedBy {us : List Use} {m : Memory} {message : Message}
    (h : message ∈ m.savedBy us) : ∃ k, message.id = some (.number k) := by
  obtain ⟨e, he, hsaved⟩ := List.mem_flatMap.mp h
  rw [Event.saved.eq_def] at hsaved
  split at hsaved
  next draft ms =>
    obtain ⟨n, now, rfl⟩ := uses_filed he
    rw [List.mem_singleton.mp hsaved]
    exact ⟨n, rfl⟩
  next => exact nomatch hsaved

/-- Where the first message of an id stands, it is found. -/
theorem get_of_find {m : Memory} {id : MessageId} {message : Message}
    (free : m.failures .get = none)
    (there : m.messages.find? (fun x => x.id == some id) = some message) :
    (m.get id).1 = .ok message := by
  rw [get, answer_free free, show (m.noted (.get id)).messages = m.messages from rfl, there]

/-- Behind messages of other ids a record is the first of its id, whatever follows it. -/
theorem find?_fresh {id : MessageId} {before : List Message} {message : Message}
    (fresh : ∀ other ∈ before, other.id ≠ some id) (hid : message.id = some id)
    (after : List Message) :
    (before ++ [message] ++ after).find? (fun x => x.id == some id) = some message := by
  have hbefore : before.find? (fun x => x.id == some id) = none := by
    refine List.find?_eq_none.mpr fun other hother => ?_
    simpa using fresh other hother
  rw [List.append_assoc, List.find?_append, hbefore, Option.none_or, List.singleton_append,
    List.find?_cons_of_pos]
  simpa using hid

/-- A draft has become a record behind the messages.  Its number is larger than those of the
    records made before it and not yet in the collection, and finds the record from now on. -/
structure Filed (m : Memory) (made : List Message) (draft : Message) (n now : Int64) :
    Prop where
  answer : (m.create draft).1 = .ok [draft.filed n now]
  messages : (m.create draft).2.messages = m.messages ++ [draft.filed n now]
  above : ∀ earlier ∈ made, ∃ k, earlier.id = some (.number k) ∧ k < n
  fresh : ∀ message ∈ m.messages, message.id ≠ some (.number n)
  found : ∀ later : List Use, (∀ u ∈ later, u.keeps = true) →
    ((m.create draft).2.uses later).2.failures .get = none →
      (((m.create draft).2.uses later).2.get (.number n)).1 = .ok (draft.filed n now)

/-- A counted collection with a number left files each draft that it does not refuse. -/
theorem Counted.filed {m : Memory} (hm : m.Counted) {made : List Message}
    (hmade : ∀ earlier ∈ made, earlier ∈ m.messages ∧ ∃ k, earlier.id = some (.number k))
    (free : m.failures .create = none) (room : m.lastId < Int64.maxValue.toInt)
    (draft : Message) : m.Filed made draft (Int64.ofInt (m.lastId + 1)) m.clock := by
  have hcreate : m.create draft = (.ok [m.record draft],
      { m.noted (.create draft) with
        messages := m.messages ++ [m.record draft], lastId := m.lastId + 1 }) :=
    answer_free free
  have hnext := hm.toInt_next room
  have hless : ∀ message ∈ m.messages, ∀ k, message.id = some (.number k) →
      k < Int64.ofInt (m.lastId + 1) := by
    intro message hmem k hid
    have hmost := hm.most message hmem k hid
    rw [Int64.lt_iff_toInt_lt, hnext]
    omega
  have hfresh : ∀ message ∈ m.messages,
      message.id ≠ some (.number (Int64.ofInt (m.lastId + 1))) := by
    intro message hmem hid
    exact Int64.lt_irrefl (hless message hmem _ hid)
  refine ⟨by rw [hcreate]; rfl, by rw [hcreate]; rfl, ?_, hfresh, ?_⟩
  · intro earlier hearlier
    obtain ⟨hmem, k, hid⟩ := hmade earlier hearlier
    exact ⟨k, hid, hless earlier hmem k hid⟩
  · intro later hlater hget
    refine get_of_find hget ?_
    rw [(uses_grows hlater _).messages, hcreate]
    exact find?_fresh hfresh rfl _

/-- **Drafts are numbered and kept.**  After any uses that keep the messages, a collection
    holds what it began with and behind it the records that drafts have become, each with
    all that its draft said.  A draft that is made to fail adds nothing and takes no number;
    every other draft is filed, as long as there are numbers behind the largest of the
    beginning. -/
theorem drafts_numbered_and_kept (messages : List Message) (clock : Int64) (us : List Use)
    (kept : ∀ u ∈ us, u.keeps = true) :
    let begun := ofMessages messages clock
    let m := (begun.uses us).2
    m.messages = messages ++ begun.savedBy us ∧
    (∀ draft ms, Event.posted draft (.ok ms) ∈ (begun.uses us).1 →
      ∃ n now, ms = [draft.filed n now]) ∧
    ∀ draft,
      (∀ fault, m.failures .create = some fault →
        (m.create draft).1 = .error fault ∧ (m.create draft).2.messages = m.messages ∧
          (m.create draft).2.lastId = m.lastId) ∧
      (m.failures .create = none →
        largest messages + (begun.savedBy us).length < Int64.maxValue.toInt →
        ∃ n now, n.toInt = largest messages + (begun.savedBy us).length + 1 ∧
          m.Filed (begun.savedBy us) draft n now) := by
  intro begun m
  have hgrows : begun.Grows (begun.savedBy us) m := uses_grows kept begun
  have hcounted : m.Counted := (counted_ofMessages messages clock).uses kept
  refine ⟨hgrows.messages, fun draft ms => uses_filed, fun draft => ⟨?_, ?_⟩⟩
  · intro fault hfault
    have hcreate : m.create draft = (.error fault, m.noted (.create draft)) :=
      answer_failed hfault
    rw [hcreate]
    exact ⟨rfl, rfl, rfl⟩
  · intro hfree hroom
    -- the last number counts the drafts that were saved, from the largest of the beginning
    have hlast : m.lastId = largest messages + (begun.savedBy us).length := hgrows.lastId
    rw [← hlast] at hroom ⊢
    refine ⟨_, _, hcounted.toInt_next hroom, hcounted.filed ?_ hfree hroom draft⟩
    intro earlier hearlier
    refine ⟨?_, number_of_mem_savedBy hearlier⟩
    rw [hgrows.messages]
    exact List.mem_append_right _ hearlier

/-- Behind negative numbers and texts the numbers go on: the second draft is the first that
    is taken, and the third gets the number behind it. -/
theorem numbered_behind_negatives :
    let messages : List Message := [{ id := some (.number (-3)) }, { id := some (.text "7") }]
    let us : List Use := [.fail .create (.status 503 ""), .call (.create .empty),
      .clearFailures, .call (.create .empty)]
    (∀ u ∈ us, u.keeps = true) ∧
      ∃ now, ((ofMessages messages 9).uses us).2.Filed ((ofMessages messages 9).savedBy us)
        .empty (-1) now := by
  intro messages us
  have hkeeps : ∀ u ∈ us, u.keeps = true := by decide
  obtain ⟨n, now, hn, hfiled⟩ :=
    ((drafts_numbered_and_kept messages 9 us hkeeps).2.2 .empty).2 rfl (by decide)
  obtain rfl : n = -1 := Int64.toInt_inj.mp (hn.trans (by decide))
  exact ⟨hkeeps, now, hfiled⟩

end Memory

end Postbox
