import Mathlib.Data.List.GetD
import Postbox.Proofs.Heading
import Postbox.Proofs.Printable
import Postbox.Proofs.Validity

/-! # Framing — a request has the lines that it is meant to have

    A request begins with lines: one for its address, and one for each header.  They are told
    apart by line breaks, spaces and colons, so none of these may come from the values that are
    put into them.  Addresses are written in graphic characters (`Url.Printable.write`).  Names
    of headers are tokens in lower case (`Http.IsSafeName`), and their values have no control
    character but the tab (`Http.IsSafeValue`).

    The CSRF header is the only one whose name is free.  It is taken exactly if its name and
    its token are safe and the name is not too long (`CsrfToken.toHeader_iff`).  So a service
    is made of safe parts (`Remote.Framed.of_settings`), and what carries a call has no others
    (`Remote.Framed.carries`). -/

namespace Postbox

namespace Http

/-- The graphic characters that end a token. -/
def isDelimiter (c : Char) : Bool := "\"(),/:;<=>?@[\\]\x7b\x7d".toList.contains c

/-- The characters of names are graphic and in lower case, and end no token. -/
def isNameChar (c : Char) : Bool := Text.isGraphic c && !isDelimiter c && c.toLower == c

/-- A name is a token in lower case. -/
def IsSafeName (name : String) : Prop := name ≠ "" ∧ ∀ c ∈ name.toList, isNameChar c = true

/-- A byte of a value is no control character but the tab. -/
def IsSafeByte (b : UInt8) : Prop := b = 0x09 ∨ 0x20 ≤ b ∧ b ≠ 0x7F

/-- The bytes of a value are no control characters but tabs. -/
def IsSafeValue (value : String) : Prop := ∀ b ∈ Text.utf8 value.toList, IsSafeByte b

instance (b : UInt8) : Decidable (IsSafeByte b) :=
  inferInstanceAs (Decidable (b = 0x09 ∨ 0x20 ≤ b ∧ b ≠ 0x7F))

instance (value : String) : Decidable (IsSafeValue value) :=
  List.decidableBAll IsSafeByte (Text.utf8 value.toList)

instance (name : String) : Decidable (IsSafeName name) :=
  @instDecidableAnd (name ≠ "") (∀ c ∈ name.toList, isNameChar c = true) inferInstance
    (List.decidableBAll (fun c => isNameChar c = true) name.toList)

/-! ## Names -/

/-- A character outside of ASCII has no other case. -/
theorem toLower_of_not_ascii {c : Char} (h : ¬ c.toNat < 0x80) : c.toLower = c := by
  refine dif_neg fun hupper => h ?_
  have hle := UInt32.le_iff_toNat_le.mp hupper.2
  rw [Char.toNat_val, Char.toNat_val] at hle
  exact Nat.lt_of_le_of_lt hle (by decide)

/-- The characters of a token are graphic. -/
theorem isGraphic_of_isTokenChar {c : Char} (h : isTokenChar c = true) :
    Text.isGraphic c = true := by
  have hsigns : Text.Graphic "!#$%&'*+-.^_`|~" := by decide
  rcases Bool.or_eq_true_iff.mp h with halphanum | hsign
  · exact Text.isGraphic_of_isAlphanum halphanum
  · exact hsigns c (List.contains_iff_mem.mp hsign)

/-- **The characters of a token** are the graphic ones that do not end it. -/
theorem isTokenChar_eq (c : Char) : isTokenChar c = (Text.isGraphic c && !isDelimiter c) := by
  by_cases hascii : c.toNat < 0x80
  · exact Text.forall_ascii
      (P := fun c => isTokenChar c = (Text.isGraphic c && !isDelimiter c)) (by decide) hascii
  · have hgraphic : Text.isGraphic c = false :=
      Bool.eq_false_iff.mpr fun h => hascii (Text.ascii_of_isGraphic h)
    rw [hgraphic, Bool.false_and, Bool.eq_false_iff]
    exact fun h => hascii (Text.ascii_of_isGraphic (isGraphic_of_isTokenChar h))

/-- A character is one of a token in either case. -/
theorem isTokenChar_toLower (c : Char) : isTokenChar c.toLower = isTokenChar c := by
  by_cases hascii : c.toNat < 0x80
  · exact Text.forall_ascii (P := fun c => isTokenChar c.toLower = isTokenChar c) (by decide) hascii
  · rw [toLower_of_not_ascii hascii]

/-- A text is a safe name in lower case if it is a token. -/
theorem isSafeName_lower {s : String} : IsSafeName (lower s) ↔
    s.toList ≠ [] ∧ ∀ c ∈ s.toList, isTokenChar c = true := by
  rw [IsSafeName, lower, String.toList_ofList, List.forall_mem_map]
  refine and_congr ?_ (forall₂_congr fun c _ => ?_)
  · rw [ne_eq, ← String.toList_inj, String.toList_ofList]
    exact not_congr List.map_eq_nil_iff
  · rw [isNameChar, ← isTokenChar_eq, isTokenChar_toLower, toLower_toLower, beq_self_eq_true,
      Bool.and_true]

/-- **A text is a name** if it is a safe one in lower case, and not too long. -/
theorem headerName?_iff {s : String} : (∃ name, headerName? s = some name) ↔
    IsSafeName (lower s) ∧ s.toList.length ≤ maxNameLength := by
  rw [isSafeName_lower, headerName?]
  constructor
  · rintro ⟨name, h⟩
    obtain ⟨hgood, -⟩ := Option.ite_none_left_eq_some.mp h
    simp only [Bool.or_eq_true, List.isEmpty_iff, decide_eq_true_eq, Bool.not_eq_true',
      not_or, Nat.not_lt, Bool.not_eq_false] at hgood
    exact ⟨⟨hgood.1.1, List.all_eq_true.mp hgood.2⟩, hgood.1.2⟩
  · rintro ⟨⟨hsome, hchars⟩, hlength⟩
    refine ⟨_, if_neg ?_⟩
    simp only [Bool.or_eq_true, List.isEmpty_iff, decide_eq_true_eq, Bool.not_eq_true',
      not_or, Nat.not_lt, Bool.not_eq_false]
    exact ⟨⟨hsome, hlength⟩, List.all_eq_true.mpr hchars⟩

/-! ## Values -/

/-- A byte that is none of ASCII is safe. -/
theorem isSafeByte_of_le {n : Nat} (h : 0x80 ≤ n) (hn : n < 0x100) :
    IsSafeByte (UInt8.ofNat n) := by
  have hb := Text.toNat_byte hn
  refine Or.inr ⟨UInt8.le_iff_toNat_le.mpr ?_, fun heq => ?_⟩
  · rw [hb]
    exact Nat.le_trans (by decide) h
  · rw [heq] at hb
    exact absurd hb (by show 0x7F ≠ n; omega)

/-- A character may stand in a value if and only if its bytes may. -/
theorem isSafeByte_utf8EncodeChar (c : Char) :
    (c == '\t' || (c.toNat ≥ 0x20 && c.toNat ≠ 0x7F)) = true ↔
      ∀ b ∈ String.utf8EncodeChar c, IsSafeByte b := by
  by_cases h1 : c.toNat ≤ 0x7F
  · rw [Text.utf8EncodeChar_one h1, List.forall_mem_singleton]
    exact Text.forall_ascii (P := fun c => (c == '\t' || (c.toNat ≥ 0x20 && c.toNat ≠ 0x7F)) = true
      ↔ IsSafeByte (UInt8.ofNat c.toNat)) (by decide) (by omega)
  -- beyond ASCII all bytes have their highest bit set, however many there are
  · have hplain : (c == '\t' || (c.toNat ≥ 0x20 && c.toNat ≠ 0x7F)) = true := by
      rw [Bool.or_eq_true, Bool.and_eq_true, decide_eq_true_iff, decide_eq_true_iff]
      exact Or.inr (by omega)
    refine iff_of_true hplain ?_
    by_cases h2 : c.toNat ≤ 0x7FF
    · rw [Text.utf8EncodeChar_two h1 h2]
      simp only [List.forall_mem_cons]
      exact ⟨isSafeByte_of_le (by omega) (by omega), isSafeByte_of_le (by omega) (by omega),
        List.forall_mem_nil _⟩
    · by_cases h3 : c.toNat ≤ 0xFFFF
      · rw [Text.utf8EncodeChar_three h1 h2 h3]
        simp only [List.forall_mem_cons]
        exact ⟨isSafeByte_of_le (by omega) (by omega), isSafeByte_of_le (by omega) (by omega),
          isSafeByte_of_le (by omega) (by omega), List.forall_mem_nil _⟩
      · rw [Text.utf8EncodeChar_four h1 h2 h3]
        simp only [List.forall_mem_cons]
        exact ⟨isSafeByte_of_le (by omega) (by omega), isSafeByte_of_le (by omega) (by omega),
          isSafeByte_of_le (by omega) (by omega), isSafeByte_of_le (by omega) (by omega),
          List.forall_mem_nil _⟩

/-- **A text can be a value** if and only if its bytes are safe. -/
theorem isHeaderValue_iff {s : String} : isHeaderValue s = true ↔ IsSafeValue s := by
  rw [isHeaderValue, List.all_eq_true, IsSafeValue, Text.utf8]
  constructor
  · intro h b hb
    obtain ⟨c, hc, hb⟩ := List.mem_flatMap.mp hb
    exact (isSafeByte_utf8EncodeChar c).mp (h c hc) b hb
  · intro h c hc
    exact (isSafeByte_utf8EncodeChar c).mpr fun b hb => h b (List.mem_flatMap.mpr ⟨c, hc, hb⟩)

/-- A text in graphic characters is a safe value. -/
theorem isSafeValue_of_graphic {s : String} (h : Text.Graphic s) : IsSafeValue s := by
  refine isHeaderValue_iff.mp (List.all_eq_true.mpr fun c hc => ?_)
  have hgraphic := h c hc
  rw [Text.isGraphic, Bool.and_eq_true, decide_eq_true_iff, decide_eq_true_iff] at hgraphic
  rw [Bool.or_eq_true, Bool.and_eq_true, decide_eq_true_iff, decide_eq_true_iff]
  exact Or.inr (by omega)

theorem IsSafeValue.append {s t : String} (hs : IsSafeValue s) (ht : IsSafeValue t) :
    IsSafeValue (s ++ t) := by
  rw [IsSafeValue, Text.utf8, String.toList_append, List.flatMap_append]
  exact List.forall_mem_append.mpr ⟨hs, ht⟩

end Http

/-- **A CSRF header is taken** if and only if its name and its token are safe, and the name is
    not too long. -/
theorem CsrfToken.toHeader_iff {c : CsrfToken} : (∃ header, c.toHeader = .ok header) ↔
    (Http.IsSafeName (Http.lower c.header) ∧ c.header.toList.length ≤ Http.maxNameLength) ∧
      Http.IsSafeValue c.token := by
  rw [← Http.headerName?_iff, ← Http.isHeaderValue_iff, toHeader]
  cases Http.headerName? c.header with
  | none =>
      constructor
      · rintro ⟨header, h⟩
        cases h
      · rintro ⟨⟨name, h⟩, -⟩
        cases h
  | some name =>
      dsimp only
      split
      · rename_i hvalue
        exact iff_of_true ⟨_, rfl⟩ ⟨⟨name, rfl⟩, hvalue⟩
      · rename_i hvalue
        refine iff_of_false ?_ fun h => hvalue h.2
        rintro ⟨header, h⟩
        cases h

/-! ## Headers -/

namespace Http

/-- Headers have safe names and safe values. -/
def Headers.Safe (hs : Headers) : Prop := ∀ h ∈ hs, IsSafeName h.1 ∧ IsSafeValue h.2

namespace Headers

variable {hs : Headers} {name value : String}

theorem Safe.set (h : hs.Safe) (hname : IsSafeName name) (hvalue : IsSafeValue value) :
    (hs.set name value).Safe :=
  List.forall_mem_append.mpr ⟨fun header hmem => h header (List.mem_of_mem_filter hmem),
    List.forall_mem_singleton.mpr ⟨hname, hvalue⟩⟩

theorem Safe.withDefaults {defaults : Headers} (h : hs.Safe) (hdefaults : defaults.Safe) :
    (defaults.withDefaults hs).Safe :=
  List.forall_mem_append.mpr
    ⟨h, fun header hmem => hdefaults header (List.mem_of_mem_filter hmem)⟩

/-- The headers of JSON are safe. -/
theorem safe_json : json.Safe := by
  have hvalue : IsSafeValue "application/json" := isSafeValue_of_graphic (by decide)
  exact List.forall_mem_cons.mpr ⟨⟨by decide, hvalue⟩,
    List.forall_mem_singleton.mpr ⟨by decide, hvalue⟩⟩

end Headers

/-- Credentials are written in letters, digits and three signs. -/
theorem isGraphic_base64 (bytes : List UInt8) :
    ∀ c ∈ Text.base64 bytes, Text.isGraphic c = true := by
  have halphabet : Text.base64Alphabet.all Text.isGraphic = true := by decide
  have hdigit (n bit : Nat) : Text.isGraphic (Text.base64Digit n bit) = true := by
    have hlt : (n >>> bit) % 64 < Text.base64Alphabet.length := Nat.mod_lt _ (by decide)
    rw [Text.base64Digit, List.getD_eq_getElem _ _ hlt]
    exact List.all_eq_true.mp halphabet _ (List.getElem_mem _)
  have hpad : Text.isGraphic '=' = true := by decide
  fun_induction Text.base64 bytes with
  | case1 => exact List.forall_mem_nil _
  | case2 a n => simp [hdigit, hpad]
  | case3 a b n => simp [hdigit, hpad]
  | case4 a b c rest n ih => simpa [hdigit] using ih

/-- The header that names a user is safe. -/
theorem safe_authorization {u : Url} {name value : String}
    (h : authorization? u = some (name, value)) : IsSafeName name ∧ IsSafeValue value := by
  obtain rfl := authorization?_name h
  refine ⟨by decide, ?_⟩
  simp only [authorization?, Option.bind_eq_bind, Option.bind_eq_some_iff] at h
  obtain ⟨authority, -, user, -, h⟩ := h
  have hvalue := (Prod.mk.inj (Option.some.inj (Option.ite_none_left_eq_some.mp h).2)).2
  rw [← hvalue]
  refine IsSafeValue.append (isHeaderValue_iff.mp (by decide)) (isSafeValue_of_graphic ?_)
  exact Text.graphic_ofList (isGraphic_base64 _)

end Http

/-- **The headers of a service are safe.** -/
theorem Remote.safe_headersOf {s : Settings} {hs : Http.Headers}
    (h : headersOf s = .ok hs) : hs.Safe := by
  rw [Settings.headersOf_eq] at h
  obtain ⟨before, hbefore, h⟩ := bind_eq_ok.mp h
  have hsafe : before.Safe := by
    rw [Settings.withToken] at hbefore
    cases hcsrf : s.csrf with
    | none =>
        rw [hcsrf] at hbefore
        rw [← Except.ok.inj hbefore]
        exact Http.Headers.safe_json
    | some c =>
        rw [hcsrf] at hbefore
        obtain ⟨⟨name, value⟩, hheader, rfl⟩ := map_eq_ok hbefore
        obtain ⟨⟨hname, -⟩, hvalue⟩ := CsrfToken.toHeader_iff.mp ⟨_, hheader⟩
        obtain ⟨rfl, rfl⟩ := CsrfToken.toHeader_ok hheader
        exact Http.Headers.safe_json.set hname hvalue
  split at h
  · cases h
  · rename_i hagent
    rw [Bool.not_eq_true', Bool.not_eq_false] at hagent
    rw [← Except.ok.inj h]
    exact hsafe.set (by decide) (Http.isHeaderValue_iff.mp hagent)

/-! ## Requests -/

/-- Without its user, an address is as printable. -/
theorem Url.Printable.withoutUser {u : Url} (h : u.Printable) : u.withoutUser.Printable where
  scheme := h.scheme
  authority := by
    intro a ha
    obtain ⟨b, hb, rfl⟩ := Option.map_eq_some_iff.mp ha
    exact ⟨(by decide : Text.Graphic ""), (by decide : Text.Graphic ""), (h.authority b hb).host⟩
  names := h.names
  query := h.query
  fragment := h.fragment

/-- The address of a request is graphic, and its headers are safe. -/
structure Http.Request.Framed (q : Http.Request) : Prop where
  url : Text.Graphic q.url.write
  headers : q.headers.Safe

/-- A request to a printable address is framed. -/
theorem Http.Request.framed_to {u : Url} (hu : u.Printable) (hpath : u.HasSegments)
    {hs : Http.Headers} (h : hs.Safe) (method : Http.Method) (body : String) :
    (Http.Request.to method u hs body).Framed := by
  rw [Http.Request.to]
  cases hauth : Http.authorization? u with
  | none => exact ⟨hu.write hpath, h⟩
  | some header =>
      have hdefault : Http.Headers.Safe [header] :=
        List.forall_mem_singleton.mpr (Http.safe_authorization hauth)
      exact ⟨hu.withoutUser.write hpath, Http.Headers.Safe.withDefaults hdefault h⟩

namespace Remote

/-- The parts of a service that go into its requests are printable and safe. -/
structure Framed (r : Remote) : Prop where
  collection : r.collection.Printable
  segments : r.collection.HasSegments
  headers : r.headers.Safe

/-- **A service on the web** has such parts. -/
theorem Framed.of_settings {s : Settings} {r : Remote} (accepted : ofSettings s = .ok r)
    (hhttp : r.collection.isHttp = true) : r.Framed where
  collection := Url.printable_closed.collection accepted
  segments := (fits_collection accepted).hasSegments (Url.special_of_isHttp hhttp).1
  headers := safe_headersOf (ofSettings_parts accepted).1

variable {r : Remote}

/-- The address of a message is printable. -/
theorem Framed.messageUrl (h : r.Framed) {id : MessageId} {u : Url}
    (hu : r.messageUrl id = .ok u) : u.Printable ∧ u.HasSegments := by
  obtain ⟨names, hnames⟩ := h.segments
  rw [Remote.messageUrl, Url.push?, hnames] at hu
  rw [← Except.ok.inj hu]
  exact ⟨h.collection.withSegments (Url.graphic_push _ (h.collection.names names hnames) _),
    ⟨_, rfl⟩⟩

/-- **What carries a call is framed**, whatever the id or the draft. -/
theorem Framed.carries (h : r.Framed) {call : Call} {q : Http.Request}
    (hq : r.Carries call q) : q.Framed := by
  cases call with
  | list =>
      obtain rfl := hq
      exact Http.Request.framed_to h.collection h.segments h.headers _ _
  | get id =>
      obtain ⟨u, hu, rfl⟩ := hq
      obtain ⟨hprintable, hsegments⟩ := h.messageUrl hu
      exact Http.Request.framed_to hprintable hsegments h.headers _ _
  | create draft =>
      obtain ⟨body, rfl, -⟩ := hq
      exact Http.Request.framed_to h.collection h.segments h.headers _ _

end Remote

/-- **Requests cannot be split.**  Whatever settings a service on the web is made of, and
    whatever call it is asked for, what carries the call has an address in graphic characters
    and headers with safe names and safe values, and nothing else is sent.  A CSRF header whose
    name or token would not be safe is refused, and so are settings with such a header. -/
theorem requests_framed :
    (∀ (s : Settings) (r : Remote), Remote.ofSettings s = .ok r → r.collection.isHttp = true →
      ∀ call : Call, (∀ q, r.Carries call q → q.Framed) ∧
        ∀ l : Http.Link, ∃ qs, (r.linkAfter call l).sent = l.sent ++ qs ∧
          ∀ q ∈ qs, r.Carries call q) ∧
    ∀ c : CsrfToken, ¬ (Http.IsSafeName (Http.lower c.header) ∧ Http.IsSafeValue c.token) →
      (∃ p, c.toHeader = .error p) ∧
        ∀ s : Settings, s.csrf = some c → ∃ p, s.validate = .error p := by
  constructor
  · intro s r accepted hhttp call
    exact ⟨fun q hq => (Remote.Framed.of_settings accepted hhttp).carries hq,
      r.sent_carries call⟩
  · intro c hunsafe
    have hrefused : ∀ header, c.toHeader ≠ .ok header := by
      intro header hheader
      obtain ⟨⟨hname, -⟩, hvalue⟩ := CsrfToken.toHeader_iff.mp ⟨header, hheader⟩
      exact hunsafe ⟨hname, hvalue⟩
    constructor
    · cases hheader : c.toHeader with
      | error p => exact ⟨p, rfl⟩
      | ok header => exact absurd hheader (hrefused header)
    · intro s hcsrf
      cases hvalid : s.validate with
      | error p => exact ⟨p, rfl⟩
      | ok _ =>
          have hchecked := (Settings.validate_eq_ok.mp hvalid).csrf
          rw [hcsrf] at hchecked
          obtain ⟨header, hheader, -⟩ := map_eq_ok hchecked
          exact absurd hheader (hrefused header)

/-- Spaces and line breaks do not get into the address of a message, and a token with a line
    break is refused. -/
theorem requests_framed_breaks :
    (∃ r q, Remote.ofSettings { Settings.loopback "X-Token" with baseUrl := "http://[::1]/a b" }
        = .ok r ∧ (r.linkAfter (.get (.text "1\r\nHost: x")) {}).sent = [q] ∧ q.Framed ∧
      q.url.write = "http://[::1]/a%20b/rest/1Host:%20x") ∧
    ∃ p, ({ csrf := some ⟨"X-Token", "a\r\nb"⟩ } : Settings).validate = .error p := by
  obtain ⟨hframed, hrefused⟩ := requests_framed
  constructor
  · let r : Remote :=
      { collection := .loopback (.segments ["a%20b", "rest", ""])
        headers := [("content-type", "application/json"), ("accept", "application/json"),
          ("x-token", "abc"), ("user-agent", "message-inbox/0.1.0")]
        timeout := Remote.loopback.timeout }
    let u : Url := .loopback (.segments ["a%20b", "rest", "1Host:%20x"])
    have accepted : Remote.ofSettings
      { Settings.loopback "X-Token" with baseUrl := "http://[::1]/a b" } = .ok r := rfl
    have hu : r.messageUrl (.text "1\r\nHost: x") = .ok u := rfl
    have hcarries : r.Carries (.get (.text "1\r\nHost: x")) (.to .get u r.headers "") :=
      ⟨u, hu, rfl⟩
    have hsendable : (Http.Request.to .get u r.headers "").isSendable = true :=
      (Remote.loopback_isSendable .get _ _ "").trans (by decide)
    refine ⟨r, _, accepted, ?_, (hframed _ r accepted rfl _).1 _ hcarries, ?_⟩
    · rw [Remote.linkAfter, Remote.get, hu]
      dsimp only
      rw [Remote.call_answered hsendable rfl rfl]
      rfl
    · rw [Http.Request.to_anonymous rfl]
      decide
  · exact (hrefused ⟨"X-Token", "a\r\nb"⟩ (by decide)).2 _ rfl

end Postbox
