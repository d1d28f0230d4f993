import Postbox.Program
import Postbox.Proofs.Decimal
import Postbox.Proofs.Mirror
import Postbox.Proofs.Segment
import Postbox.Proofs.Text.Trimming

/-! # Opening — what the inbox lists is opened by its text

    A typed text is trimmed, and it is read as a number where it is one.  The text of
    a number is read as that number (`MessageId.ofText_number`).  The id of a text is
    made of its trimmed text; that makes no difference to the address if nothing but
    tabs and line breaks was trimmed, for an address is freed of those
    (`Url.push_padded`).  So an id can be typed as it is shown, unless its text has
    other blanks at an end, is dots between breaks, or spells a number in another way
    than the number is shown (`MessageId.IsTypable`).  Ids without breaks that cannot be
    typed are opened as other messages (`typable_of_opened`). -/

namespace Postbox

/-! ## Numbers -/

namespace MessageId

/-- A typed text is trimmed, and is a number where it is one then. -/
theorem ofText_eq (s : String) : ofText s
    = match Decimal.int64? (Text.trim s).toList with
      | some n => number n
      | none => text (Text.trim s) := rfl

/-- Nothing is trimmed of the text of a number. -/
theorem trim_number (w : Int64) : Text.trim (number w).display = (number w).display := by
  show Text.trim (toString w.toInt) = toString w.toInt
  rw [Text.trim, Text.strip_none fun c hc => Text.isBlank_digit (Decimal.mem_repr hc),
    String.ofList_toList]

/-- **The text of a number is read as the number.** -/
theorem ofText_number (w : Int64) : ofText (number w).display = number w := by
  have hread : Decimal.int64? (number w).display.toList = some w := Decimal.int64_repr w
  rw [ofText_eq, trim_number, hread]

end MessageId

/-! ## Breaks at the ends -/

namespace Url

/-- Digits and signs are no breaks. -/
theorem isBreak_digit {c : Char} (h : c = '-' ∨ c.isDigit = true) : isBreak c = false := by
  refine Bool.eq_false_iff.mpr fun hbreak => ?_
  simp only [isBreak, Bool.or_eq_true, beq_iff_eq] at hbreak
  rcases hbreak with (rfl | rfl) | rfl
  · exact absurd h (by decide)
  · exact absurd h (by decide)
  · exact absurd h (by decide)

/-- A text that is another one with tabs and line breaks in front and behind. -/
def Padded (text s : String) : Prop :=
  ∃ front back : List Char, (∀ c ∈ front, isBreak c = true) ∧ (∀ c ∈ back, isBreak c = true)
    ∧ s.toList = front ++ text.toList ++ back

section

variable {front part back : List Char} (hfront : ∀ c ∈ front, isBreak c = true)
  (hback : ∀ c ∈ back, isBreak c = true)

include hback

/-- Breaks at the end do not count where breaks are left out. -/
theorem withoutBreaks_back (cs : List Char) : withoutBreaks (cs ++ back) = withoutBreaks cs := by
  have hnil : withoutBreaks back = [] := by
    refine List.filter_eq_nil_iff.mpr fun c hc => ?_
    rw [hback c hc]
    decide
  rw [withoutBreaks, List.filter_append, show back.filter _ = withoutBreaks back from rfl, hnil,
    List.append_nil]
  rfl

/-- Breaks behind a text do not count where breaks in front are dropped. -/
theorem dropWhile_back (cs : List Char) : (cs ++ back).dropWhile isBreak
    = if (cs.dropWhile isBreak).isEmpty then [] else cs.dropWhile isBreak ++ back := by
  have hnil : back.dropWhile isBreak = [] := by
    have h := @List.dropWhile_append_of_pos _ isBreak back [] hback
    simpa using h
  rw [List.dropWhile_append, hnil]

/-- Breaks behind a text do not make a drive in front of it that is cut off. -/
theorem cutDrive_back (part : List Char) : cutDrive? (part ++ back) = cutDrive? part := by
  rw [cutDrive?, cutDrive?, dropWhile_back hback]
  cases part.dropWhile isBreak with
  | nil => rfl
  | cons letter rest =>
      dsimp only [List.isEmpty_cons, List.cons_append]
      rw [if_neg Bool.false_ne_true]
      dsimp only
      rw [dropWhile_back hback]
      cases rest.dropWhile isBreak with
      | nil => rfl
      | cons colon rest =>
          dsimp only [List.isEmpty_cons, List.cons_append]
          rw [if_neg Bool.false_ne_true]
          by_cases hcolon : colon = ':'
          · subst hcolon
            cases rest with
            | cons c rest =>
                show (if (_ && _ && !(withoutBreaks (rest ++ back)).isEmpty) = true then
                  some (_, withoutBreaks (rest ++ back)) else none) = _
                rw [withoutBreaks_back hback]
                rfl
            | nil =>
                -- a break behind the colon counts if something else is behind it
                cases back with
                | nil => rfl
                | cons c cs =>
                    have hcs := withoutBreaks_back
                      (fun d hd => hback d (List.mem_cons_of_mem c hd)) []
                    show (if (_ && _ && !(withoutBreaks ([] ++ cs)).isEmpty) = true then
                      some (_, withoutBreaks ([] ++ cs)) else none) = none
                    rw [hcs, show withoutBreaks [] = [] from rfl, List.isEmpty_nil, Bool.not_true,
                      Bool.and_false, if_neg Bool.false_ne_true]
          · simp [hcolon]

include hfront

/-- Breaks at the ends do not count where breaks are left out. -/
theorem withoutBreaks_padded :
    withoutBreaks (front ++ part ++ back) = withoutBreaks part := by
  have hnil : withoutBreaks front = [] := by
    refine List.filter_eq_nil_iff.mpr fun c hc => ?_
    rw [hfront c hc]
    decide
  rw [withoutBreaks_back hback, withoutBreaks, List.filter_append,
    show front.filter _ = withoutBreaks front from rfl, hnil]
  rfl

/-- Breaks at the ends do not make a drive that is cut off. -/
theorem cutDrive_padded : cutDrive? (front ++ part ++ back) = cutDrive? part := by
  rw [cutDrive_back hback, cutDrive?, List.dropWhile_append_of_pos hfront, ← cutDrive?]

end

/-- Breaks at the ends of a text make no difference to the segment that it becomes, if
    neither is dots. -/
theorem Path.push_padded {text s : String} (h : Padded text s)
    (htext : ¬ (text = "." ∨ text = "..")) (hs : ¬ (s = "." ∨ s = ".."))
    (scheme : String) (names : List String) : push scheme names s = push scheme names text := by
  have hadded : ∀ d : String, ¬ (d = "." ∨ d = "..") → (d == "." || d == "..") = false := by
    intro d hd
    simpa using hd
  obtain ⟨front, back, hfront, hback, heq⟩ := h
  rw [push, push, hadded text htext, hadded s hs]
  dsimp only
  rw [if_neg Bool.false_ne_true, if_neg Bool.false_ne_true, Trail.read, Trail.read, heq,
    cutDrive_padded hfront hback, withoutBreaks_padded hfront hback]

end Url

/-! ## Opening -/

namespace MessageId

/-- An id that is found again by the text it is shown as: a number, or a text of which
    only tabs and line breaks are trimmed, if it is not dots between them and spells no
    number in another way than the number is shown. -/
def IsTypable : MessageId → Prop
  | number _ => True
  | text s =>
      Url.Padded (Text.trim s) s
        ∧ (Text.trim s = "." ∨ Text.trim s = ".." → Text.trim s = s)
        ∧ ∀ n, Decimal.int64? (Text.trim s).toList = some n → (number n).display = Text.trim s

/-- The id that is made of a text is shown as the trimmed text, if that spells no number
    in another way than it is shown. -/
theorem display_ofText {s : String} (h : ∀ n, Decimal.int64? (Text.trim s).toList = some n →
    (number n).display = Text.trim s) : (ofText s).display = Text.trim s := by
  rw [ofText_eq]
  cases hread : Decimal.int64? (Text.trim s).toList with
  | none => rfl
  | some n => exact h n hread

end MessageId

namespace Remote

/-- Ids that become the same segment have the same address. -/
theorem messageUrl_congr (r : Remote) {id id' : MessageId}
    (h : ∀ names, Url.Path.push r.collection.scheme names id.display
      = Url.Path.push r.collection.scheme names id'.display) :
    r.messageUrl id = r.messageUrl id' := by
  rw [messageUrl, messageUrl, Url.push?, Url.push?]
  cases r.collection.path with
  | segments names =>
      dsimp only
      rw [h]
  | flat text => rfl

/-- **The text that an id is shown as leads to the address of the id.** -/
theorem messageUrl_typed (r : Remote) {id : MessageId} (h : id.IsTypable) :
    r.messageUrl (.ofText id.display) = r.messageUrl id := by
  cases id with
  | number n => rw [MessageId.ofText_number]
  | text s =>
      obtain ⟨hpadded, hdots, hnumber⟩ := h
      have hshown := MessageId.display_ofText hnumber
      refine messageUrl_congr r fun names => ?_
      show Url.Path.push _ names (MessageId.ofText s).display = Url.Path.push _ names s
      rw [hshown]
      by_cases hs : Text.trim s = s
      · rw [hs]
      · have hother : ¬ (Text.trim s = "." ∨ Text.trim s = "..") := fun hd => hs (hdots hd)
        have hself : ¬ (s = "." ∨ s = "..") := by
          rintro (rfl | rfl)
          · exact hs rfl
          · exact hs rfl
        exact (Url.Path.push_padded hpadded hother hself _ names).symm

end Remote

/-! ## Only by those -/

namespace MessageId

/-- An id whose text is made into an id of the same text can be typed. -/
theorem typable_of_display {s : String} (h : (ofText s).display = s) : (text s).IsTypable := by
  have htrim : Text.trim s = s := by
    rw [ofText_eq] at h
    cases hread : Decimal.int64? (Text.trim s).toList with
    | none =>
        rw [hread] at h
        exact h
    | some n =>
        rw [hread] at h
        rw [← h]
        exact trim_number n
  refine ⟨⟨[], [], fun _ hc => (nomatch hc), fun _ hc => (nomatch hc), ?_⟩, fun _ => htrim, ?_⟩
  · rw [htrim, List.nil_append, List.append_nil]
  · intro n hn
    rw [ofText_eq, hn] at h
    exact h.trans htrim.symm

/-- What is not in a text is not in the text of the id that is made of it, if it is no
    digit and no sign. -/
theorem mem_ofText {s : String} {c : Char} (h : c ∈ (ofText s).display.toList) :
    c ∈ s.toList ∨ c = '-' ∨ c.isDigit = true := by
  rw [ofText_eq] at h
  cases hread : Decimal.int64? (Text.trim s).toList with
  | some n =>
      rw [hread] at h
      exact Or.inr (Decimal.mem_repr h)
  | none =>
      rw [hread] at h
      have h : c ∈ (Text.trim s).toList := h
      rw [Text.trim, String.toList_ofList, Text.strip, List.mem_reverse] at h
      have hmem := (List.dropWhile_sublist _).subset h
      rw [List.mem_reverse] at hmem
      exact Or.inl ((List.dropWhile_sublist _).subset hmem)

end MessageId

/-- The empty text is added as an empty segment. -/
theorem Url.Path.push_empty {scheme : String} (hscheme : scheme ≠ "file") (names : List String) :
    push scheme names "" = below names ++ [""] := by
  have hfile : (scheme == "file") = false := beq_eq_false_iff_ne.mpr hscheme
  rw [push]
  dsimp only
  rw [if_neg (by decide), below_eq, Trail.read]
  dsimp only
  rw [hfile, Bool.false_and, if_neg Bool.false_ne_true]
  show Trail.names scheme { behind := "" :: (below names).reverse } = _
  rw [Trail.names, hfile]
  show ("" :: (below names).reverse).reverse = _
  rw [List.reverse_cons, List.reverse_reverse]

/-- Dots are not added as a segment. -/
theorem Url.Path.push_dots {scheme text : String} (h : text = "." ∨ text = "..")
    {names : List String} {segment : String} (hsegment : segment ≠ "") :
    push scheme names text ≠ below names ++ [segment] := by
  have hdots : (text == "." || text == "..") = true := by
    rcases h with rfl | rfl
    · rfl
    · rfl
  have hbelow := below_eq names
  rw [push]
  dsimp only at hbelow ⊢
  rw [if_pos hdots]
  intro heq
  rw [heq] at hbelow
  split at hbelow
  · rename_i hempty
    rw [← hbelow] at hempty
    exact hsegment (List.cons.inj (beq_iff_eq.mp hempty)).1
  · have hlength := congrArg List.length hbelow
    simp at hlength

/-- **Only ids that can be typed are opened by their texts**, among those without tabs
    and line breaks, where the collection is not a file and its path has segments. -/
theorem typable_of_opened {settings : Settings} {r : Remote}
    (accepted : Remote.ofSettings settings = .ok r) {names : List String}
    (hpath : r.collection.path = .segments names) (hscheme : r.collection.scheme ≠ "file")
    {s : String} (unbroken : ∀ c ∈ s.toList, Url.isBreak c = false)
    (h : r.messageUrl (.ofText s) = r.messageUrl (.text s)) : (MessageId.text s).IsTypable := by
  have hfits := Remote.fits_collection accepted
  have hpush : Url.Path.push r.collection.scheme names (MessageId.ofText s).display
      = Url.Path.push r.collection.scheme names s := by
    rw [Remote.messageUrl, Remote.messageUrl, Url.push?, Url.push?, hpath] at h
    exact Url.Path.segments.inj (congrArg Url.path (Except.ok.inj h))
  refine MessageId.typable_of_display ?_
  have hkept := Url.freed_unbroken unbroken
  -- the texts that name no segment are typed as they are
  by_cases hs : s = "" ∨ s = "." ∨ s = ".."
  · rcases hs with rfl | rfl | rfl
    · rfl
    · rfl
    · rfl
  · have hnames : Url.NamesSegment r.collection.scheme (Url.Path.below names) s := by
      refine ⟨?_, ?_, ?_, fun hfile => absurd hfile hscheme⟩
      · exact fun he => hs (.inl (hkept.symm.trans he))
      · exact fun he => hs (.inr (.inl (hkept.symm.trans he)))
      · exact fun he => hs (.inr (.inr (hkept.symm.trans he)))
    rw [Url.Fits, hpath] at hfits
    rw [Url.Path.push_eq hnames hfits] at hpush
    have hsegment := Url.Path.added_ne_empty hnames.some r.collection.scheme
      (Url.Path.below names).isEmpty
    have hempty : (MessageId.ofText s).display ≠ "" := by
      intro he
      rw [he, Url.Path.push_empty hscheme] at hpush
      exact hsegment (List.cons.inj (List.append_cancel_left hpush)).1.symm
    have hdots : ∀ d, d = "." ∨ d = ".." → (MessageId.ofText s).display ≠ d := by
      rintro d hd rfl
      exact Url.Path.push_dots hd hsegment hpush
    have hkept' : Url.freed (MessageId.ofText s).display = (MessageId.ofText s).display := by
      refine Url.freed_unbroken fun c hc => ?_
      rcases MessageId.mem_ofText hc with hc | hc
      · exact unbroken c hc
      · exact Url.isBreak_digit hc
    have htyped : Url.NamesSegment r.collection.scheme (Url.Path.below names)
        (MessageId.ofText s).display := by
      refine ⟨?_, ?_, ?_, fun hfile => absurd hfile hscheme⟩
      · exact fun he => hempty (hkept'.symm.trans he)
      · exact fun he => hdots _ (.inl rfl) (hkept'.symm.trans he)
      · exact fun he => hdots _ (.inr rfl) (hkept'.symm.trans he)
    rw [Url.Path.push_eq htyped hfits, hkept, hkept'] at hpush
    rcases Url.Path.added_inj (List.cons.inj (List.append_cancel_left hpush)).1 with
      heq | ⟨hfile, -⟩
    · exact heq
    · exact absurd hfile hscheme

/-! ## The command -/

namespace Remote

/-- What a request does to the link does not depend on how its reply is read. -/
theorem call_link {α : Type} (r : Remote) (method : Http.Method) (u : Url) (body : String)
    (broken broken' : ReplyProblem) (read : List UInt8 → Option α) (l : Http.Link) :
    (r.call method u body broken read l).2 = (r.call method u body broken' read l).2 := by
  rw [call, call]
  dsimp only
  split
  · rfl
  · rfl

/-- Getting two messages of one address does the same to the link. -/
theorem get_link {r : Remote} {id id' : MessageId} (h : r.messageUrl id = r.messageUrl id')
    (l : Http.Link) : (r.get id l).2 = (r.get id' l).2 := by
  rw [get, get, h]
  cases r.messageUrl id' with
  | error p => rfl
  | ok u => exact r.call_link .get u "" _ _ _ l

end Remote

section

variable {σ : Type} (service : Service σ)

/-- Showing a message gets it from the service. -/
theorem Action.store_showId (id : MessageId) (store : σ) (s : Snapshot) :
    (runShowId service id store s).store = (service.get id store).2 := by
  rw [runShowId]
  rcases service.get id store with ⟨_ | _, _⟩
  · rfl
  · rfl

/-- One action alone leaves the service as it does among others. -/
theorem Program.store_runAll_one (a : Action) (store : σ) (s : Snapshot) :
    (runAll service [a] store s).store = (a.run service store s).store := by
  rw [runAll]
  dsimp only
  cases (a.run service store s).result with
  | error f => rfl
  | ok _ => rfl

variable {service}

/-- The command that shows a message lists the collection and gets the message. -/
theorem Program.store_show {store store' : σ} {ms : List Message}
    (h : service.list store = (.ok ms, store')) (text : String) :
    (screen service (.show text) store).2.2 = (service.get (.ofText text) store').2 := by
  have hfirst : Action.showInbox.run service store {}
      = ((Snapshot.withInbox ms {}).publish store').after (.listed (.ok ms)) := by
    show Action.runShowInbox service store {} = _
    rw [Action.runShowInbox, h]
  rw [screen, hfirst]
  show (runAll service [.showId (.ofText text)] store' _).store = _
  rw [store_runAll_one]
  exact Action.store_showId service _ _ _

end

/-- **A message that the inbox lists is opened by the text of its id**, if that can be
    typed as it is shown: the text leads to the address of the message, and the command
    that shows it sends the same requests as opening the message in the inbox.  Of the ids
    without tabs and line breaks only these are opened by their texts, where the collection
    is not a file and its path has segments. -/
theorem listed_opened_by_text (r : Remote) (id : MessageId) :
    (id.IsTypable → r.messageUrl (.ofText id.display) = r.messageUrl id
      ∧ ∀ l ms l', r.list l = (.ok ms, l') → ∀ m ∈ ms, m.id = some id → ∀ s : Snapshot,
        (Program.screen r.service (.show id.display) l).2.2
          = ((Action.showMessage m).run r.service l' s).store)
      ∧ ∀ settings names, Remote.ofSettings settings = .ok r →
        r.collection.path = .segments names → r.collection.scheme ≠ "file" →
        (∀ c ∈ id.display.toList, Url.isBreak c = false) →
        r.messageUrl (.ofText id.display) = r.messageUrl id → id.IsTypable := by
  refine ⟨fun typable => ?_, ?_⟩
  · have hurl := r.messageUrl_typed typable
    refine ⟨hurl, ?_⟩
    intro l ms l' hlist m _ hid s
    have hlisted : r.service.list l = (.ok ms, l') := hlist
    rw [Program.store_show hlisted, Action.run_showMessage hid,
      Action.store_showId]
    exact Remote.get_link hurl l'
  · intro settings names accepted hpath hscheme unbroken heq
    cases id with
    | number _ => trivial
    | text s => exact typable_of_opened accepted hpath hscheme unbroken heq

/-- A link that tells of messages. -/
def Http.Link.telling (ms : List Message) : Http.Link where
  deliveries := [.reply 200 (.whole (Text.utf8 (Message.writeList ms).toList))]

/-- The messages that a link tells of are listed. -/
theorem Remote.loopback_told (ms : List Message) : loopback.list (.telling ms)
    = (.ok ms, (Http.Link.telling ms).passed
        (.to .get loopback.collection loopback.headers "") []) := by
  refine call_ok (loopback_list _ rfl) rfl rfl rfl ?_
  rw [Text.ofUtf8_utf8]
  exact Message.readList_writeList ms

/-- A text that spells a number as it is shown, with a line break behind it, is typed at
    the loop-back address; and a text with a blank inside is opened there by itself, so it
    can be typed. -/
theorem listed_opened_by_text_loopback :
    Remote.loopback.messageUrl (.ofText "7\n") = Remote.loopback.messageUrl (.text "7\n")
      ∧ (∃ l', Remote.loopback.list (.telling [{ id := some (.text "7\n") }])
          = (.ok [{ id := some (.text "7\n") }], l')
        ∧ (Program.screen Remote.loopback.service (.show "7\n")
            (.telling [{ id := some (.text "7\n") }])).2.2
          = ((Action.showMessage { id := some (.text "7\n") }).run Remote.loopback.service l'
              {}).store)
      ∧ (MessageId.text "a b").IsTypable := by
  have htyped : (MessageId.text "7\n").IsTypable := by
    refine ⟨⟨[], ['\n'], fun _ h => (nomatch h), fun c hc => ?_, rfl⟩, by decide, ?_⟩
    · rw [List.mem_singleton.mp hc]
      rfl
    · intro n hn
      rw [← Option.some.inj (show some (7 : Int64) = some n from hn)]
      rfl
  have h := (listed_opened_by_text .loopback (.text "7\n")).1 htyped
  have hlist := Remote.loopback_told [{ id := some (.text "7\n") }]
  refine ⟨h.1, ⟨_, hlist, h.2 _ _ _ hlist _ List.mem_cons_self rfl {}⟩, ?_⟩
  have hunbroken : ∀ c ∈ ['a', ' ', 'b'], Url.isBreak c = false := by simp [Url.isBreak]
  exact (listed_opened_by_text .loopback (.text "a b")).2 { baseUrl := "http://[::1]/" } _
    rfl rfl (by decide) hunbroken rfl

/-- **Ids that are opened otherwise.**  A service may list a message with a text for an
    id that spells a number with zeros in front, or that begins with a blank, or that is
    a dot in front of a line break; the typed text then leads to another address than
    the id. -/
theorem listed_opened_otherwise :
    (∀ s, ∃ l', Remote.loopback.list (.telling [{ id := some (.text s) }])
        = (.ok [{ id := some (.text s) }], l'))
      ∧ Remote.loopback.messageUrl (.ofText (MessageId.text "007").display)
        ≠ Remote.loopback.messageUrl (.text "007")
      ∧ Remote.loopback.messageUrl (.ofText (MessageId.text " a").display)
        ≠ Remote.loopback.messageUrl (.text " a")
      ∧ Remote.loopback.messageUrl (.ofText (MessageId.text ".\n").display)
        ≠ Remote.loopback.messageUrl (.text ".\n") := by
  have hseven : Remote.loopback.messageUrl (.ofText "007")
      = .ok (.loopback (.segments ["rest", "7"])) := rfl
  have hzeros : Remote.loopback.messageUrl (.text "007")
      = .ok (.loopback (.segments ["rest", "007"])) := rfl
  have ha : Remote.loopback.messageUrl (.ofText " a")
      = .ok (.loopback (.segments ["rest", "a"])) := rfl
  have hblank : Remote.loopback.messageUrl (.text " a")
      = .ok (.loopback (.segments ["rest", "%20a"])) := rfl
  have hdot : Remote.loopback.messageUrl (.ofText ".\n")
      = .ok (.loopback (.segments ["rest"])) := rfl
  have hbroken : Remote.loopback.messageUrl (.text ".\n")
      = .ok (.loopback (.segments ["rest", ""])) := rfl
  refine ⟨fun s => ⟨_, Remote.loopback_told _⟩, fun h => ?_, fun h => ?_, fun h => ?_⟩
  · exact absurd (Except.ok.inj (hseven.symm.trans (h.trans hzeros))) (by decide)
  · exact absurd (Except.ok.inj (ha.symm.trans (h.trans hblank))) (by decide)
  · exact absurd (Except.ok.inj (hdot.symm.trans (h.trans hbroken))) (by decide)

end Postbox
