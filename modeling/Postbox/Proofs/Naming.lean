import Postbox.Proofs.Framing
import Postbox.Proofs.Segment
import Postbox.Proofs.Url.Rereading

/-! # Naming — the address of a message tells its id

    The address of a message is that of the collection and one segment behind it.  The
    segment tells the id: it has no mark that would end it, every percent sign in it begins
    an escape, and the bytes that the escapes stand for are those of the displayed id
    (`Url.Tells`).  The address can be passed on as a text, since it is read back from it. -/

namespace Postbox

namespace Url

open Text

/-! ## Segments that tell a text -/

/-- Every percent sign begins an escape. -/
def Escaped (cs : List Char) : Prop :=
  ∀ front behind, cs = front ++ '%' :: behind → ∃ a b rest, behind = a :: b :: rest ∧
    (Hex.digit? a).isSome = true ∧ (Hex.digit? b).isSome = true

theorem Escaped.append {cs ds : List Char} (hcs : Escaped cs) (hds : Escaped ds) :
    Escaped (cs ++ ds) := by
  intro front behind heq
  rcases List.append_eq_append_iff.mp heq with ⟨middle, -, hsecond⟩ | ⟨middle, hfirst, hsecond⟩
  · exact hds middle behind hsecond
  · cases middle with
    | nil => exact hds [] behind hsecond.symm
    | cons c middle =>
        obtain ⟨rfl, rfl⟩ := List.cons.inj hsecond
        obtain ⟨a, b, rest, rfl, ha, hb⟩ := hcs front middle hfirst
        exact ⟨a, b, rest ++ ds, rfl, ha, hb⟩

/-- Without percent signs there is nothing to show. -/
theorem escaped_of_notMem {cs : List Char} (h : '%' ∉ cs) : Escaped cs := by
  rintro front behind rfl
  exact absurd (List.mem_append_right front List.mem_cons_self) h

theorem escaped_escapeByte (b : UInt8) : Escaped (escapeByte b) := by
  have hb : b.toNat < 256 := b.toNat_lt
  have hdigit : ∀ n < 16, Hex.upper n ≠ '%' := by decide
  intro front behind heq
  cases front with
  | nil =>
      refine ⟨_, _, [], (List.cons.inj heq).2.symm, ?_, ?_⟩
      · rw [digit_upper (by omega)]
        rfl
      · rw [digit_upper (by omega)]
        rfl
  | cons c front =>
      -- only the first of the three is a percent sign
      have hmem : '%' ∈ [Hex.upper (b.toNat / 16), Hex.upper (b.toNat % 16)] :=
        (List.cons.inj heq).2 ▸ List.mem_append_right front List.mem_cons_self
      rw [List.mem_cons, List.mem_singleton] at hmem
      rcases hmem with hhigh | hlow
      · exact absurd hhigh.symm (hdigit _ (by omega))
      · exact absurd hlow.symm (hdigit _ (by omega))

/-- **Every percent sign begins an escape** where percent signs are escaped. -/
theorem escaped_escape {reserved : Char → Bool} (h : reserved '%' = true) (cs : List Char) :
    Escaped (escape reserved cs) := by
  have hbytes : ∀ bs : List UInt8, Escaped (bs.flatMap escapeByte) := by
    intro bs
    induction bs with
    | nil => exact escaped_of_notMem List.not_mem_nil
    | cons b bs ih => exact (escaped_escapeByte b).append ih
  induction cs with
  | nil => exact escaped_of_notMem List.not_mem_nil
  | cons c cs ih =>
      refine Escaped.append ?_ ih
      rw [escapeChar]
      split
      · exact hbytes _
      · rename_i hc
        refine escaped_of_notMem fun hmem => ?_
        rw [← List.mem_singleton.mp hmem, h, Bool.or_true] at hc
        exact hc rfl

/-- A segment that tells a text: it has graphic characters of ASCII only, and none with a
    meaning in a path, its percent signs begin escapes, and it stands for the text. -/
structure Tells (segment text : String) : Prop where
  graphic : Graphic segment
  unmarked : ∀ c ∈ segment.toList, c ≠ '/' ∧ c ≠ '\\' ∧ c ≠ '?' ∧ c ≠ '#'
  escaped : Escaped segment.toList
  bytes : unescape segment.toList = utf8 text.toList

/-- **The escapes of a text tell it.** -/
theorem tells_escape (text : String) :
    Tells (String.ofList (escape Reserved.specialSegment text.toList)) text where
  graphic := graphic_escape Reserved.covers_specialSegment _
  unmarked := by
    rw [String.toList_ofList]
    have hclear : Clear Reserved.name (escape Reserved.specialSegment text.toList) :=
      clear_escape (by decide) fun c _ hc => Reserved.specialSegment_of_name hc
    intro c hc
    refine ⟨?_, ?_, ?_, ?_⟩ <;> rintro rfl <;> exact absurd (hclear _ hc).2 (by decide)
  escaped := by
    rw [String.toList_ofList]
    exact escaped_escape rfl _
  bytes := by
    rw [String.toList_ofList]
    exact unescape_escape rfl _

/-! ## Paths that end in a slash -/

/-- The last segment of a path that ends in a slash is empty, if it has no slashes. -/
theorem Path.last_of_slash {names : List String}
    (hnames : ∀ name ∈ names, ∀ c ∈ name.toList, c ≠ '/')
    (h : (Path.segments names).write.toList.getLast? = some '/') : names.getLast? = some "" := by
  rw [write_segments] at h
  rcases List.eq_nil_or_concat names with rfl | ⟨front, last, rfl⟩
  · exact nomatch h
  · rw [List.concat_eq_append] at hnames h ⊢
    rw [List.getLast?_concat]
    rw [List.flatMap_append, List.flatMap_singleton] at h
    cases hlast : last.toList with
    | nil => rw [String.toList_eq_nil_iff.mp hlast]
    | cons c cs =>
        -- the last character is one of the segment
        rw [hlast, List.getLast?_append, List.getLast?_cons_cons] at h
        have hmem : '/' ∈ last.toList := by
          rw [hlast]
          refine List.mem_of_getLast? ?_
          simpa using h
        exact absurd rfl (hnames last (List.mem_append_right _ (List.mem_singleton_self _)) _ hmem)

/-- A segment in place of a final empty one is written behind the slash. -/
theorem Path.write_last (names : List String) (segment : String) :
    (Path.segments (names ++ [segment])).write
      = (Path.segments (names ++ [""])).write ++ segment := by
  rw [write_slash, write_append]
  show _ ++ ("" ++ ("/" ++ segment)) = _
  rw [String.empty_append, String.append_assoc]

end Url

namespace Remote

/-- **The address of a message tells its id.**  On the web, below a collection whose path ends in
    a slash and is not of two slashes alone, an id without tabs and line breaks that is not
    empty and no dots has the address of the collection with one segment behind its path, and
    the segment tells the displayed id.  The address is read back from its text exactly when no
    label of the host is too long to be read in Punycode. -/
theorem messageUrl_tells {s : Settings} {r : Remote} (accepted : ofSettings s = .ok r)
    (hhttp : r.collection.isHttp = true)
    (hslash : r.collection.path.write.toList.getLast? = some '/')
    (htwo : r.collection.path.write ≠ "//") {id : MessageId}
    (hunbroken : ∀ c ∈ id.display.toList, Url.isBreak c = false)
    (hid : id.display ∉ ["", ".", ".."]) :
    ∃ names segment, r.collection.path = .segments (names ++ [""]) ∧
      let u : Url := { r.collection with path := .segments (names ++ [segment]) }
      r.messageUrl id = .ok u ∧ u.path.write = r.collection.path.write ++ segment ∧
        Url.Tells segment id.display ∧ ∃ a, r.collection.authority = some a ∧
          (Url.read u.write = .ok u ↔ Url.Domain.HasShortLabels a.host) := by
  obtain ⟨hspecial, hfile⟩ := Url.special_of_isHttp hhttp
  obtain ⟨hsettled, a, ha⟩ := settled_collection accepted hhttp
  have framed := Framed.of_settings accepted hhttp
  have hfits := fits_collection accepted
  obtain ⟨all, hall⟩ := framed.segments
  -- the path ends in an empty segment, in the place of which the new one stands
  have hnone : ∀ name ∈ all, ∀ c ∈ name.toList, c ≠ '/' := by
    intro name hname c hc
    rintro rfl
    exact absurd ((hsettled.names all hall name hname).clear _ hc).2 (by decide)
  have hlast : all.getLast? = some "" := by
    rw [hall] at hslash
    exact Url.Path.last_of_slash hnone hslash
  obtain ⟨names, rfl⟩ := List.getLast?_eq_some_iff.mp hlast
  have hmany : names ++ [""] ≠ ["", ""] := by
    intro heq
    rw [hall, heq] at htwo
    exact htwo rfl
  have hbelow : Url.Path.below (names ++ [""]) = names := by
    rw [Url.Path.below_stem hmany, Url.Path.stem, if_pos hlast, List.dropLast_concat]
  have hfreed : Url.freed id.display = id.display := Url.freed_unbroken hunbroken
  have hnames : Url.NamesSegment r.collection.scheme (Url.Path.below (names ++ [""])) id.display := by
    simp only [List.mem_cons, List.not_mem_nil, or_false, not_or] at hid
    refine ⟨?_, ?_, ?_, fun hscheme => ?_⟩
    · rw [hfreed]
      exact hid.1
    · rw [hfreed]
      exact hid.2.1
    · rw [hfreed]
      exact hid.2.2
    · rw [hscheme] at hfile
      exact absurd hfile (by decide)
  have hadded : Url.Path.added r.collection.scheme names.isEmpty id.display
      = String.ofList (Url.escape Url.Reserved.specialSegment id.display.toList) := by
    rw [Url.Path.added, Url.Path.isDriven, hfile, Url.Reserved.added, if_pos hspecial]
    rfl
  have hu := messageUrl_eq hfits hall hnames
  rw [hbelow, hfreed, hadded] at hu
  refine ⟨names, _, hall, hu, ?_, Url.tells_escape _, a, ha, ?_⟩
  · rw [hall]
    exact Url.Path.write_last names _
  · obtain ⟨hprint, -⟩ := framed.messageUrl hu
    have hpushed := hsettled.pushed hhttp hall id.display
    have hpush := hu
    rw [Remote.messageUrl, Url.push?, hall] at hpush
    rw [Except.ok.inj hpush] at hpushed
    obtain ⟨first, rest, hfirst⟩ := List.exists_cons_of_ne_nil
      (List.append_ne_nil_of_right_ne_nil names (List.cons_ne_nil _ []))
    exact hpushed.read_write_iff hprint hhttp ha (congrArg Url.Path.segments hfirst)

/-- An id that looks escaped, with a slash and a query in it, is told at the loop-back address,
    and the address is read back. -/
theorem messageUrl_tells_escaped :
    ∃ names segment, Remote.loopback.collection.path = .segments (names ++ [""]) ∧
      let u : Url := { Remote.loopback.collection with path := .segments (names ++ [segment]) }
      Remote.loopback.messageUrl (.text "%2e%2e/a?b") = .ok u ∧
        u.path.write = Remote.loopback.collection.path.write ++ segment ∧
        Url.Tells segment "%2e%2e/a?b" ∧ Url.read u.write = .ok u := by
  have hunbroken : ∀ c ∈ (MessageId.text "%2e%2e/a?b").display.toList, Url.isBreak c = false :=
    Text.forall_mem_of_all (by decide)
  obtain ⟨names, segment, hpath, hu, hwrite, htells, a, ha, hread⟩ :=
    messageUrl_tells (s := { baseUrl := "http://[::1]/" }) (r := .loopback) rfl (by decide)
      (by decide) (by decide) hunbroken (by decide)
  have hshort : Url.Domain.HasShortLabels a.host := by
    rw [← Option.some.inj ha]
    exact Url.Domain.hasShortLabels_of (by decide)
  exact ⟨names, segment, hpath, hu, hwrite, htells, hread.mpr hshort⟩

/-- Behind a path of two slashes alone the segment takes the place of both. -/
theorem messageUrl_replaces_slashes : ∃ r u,
    Remote.ofSettings { baseUrl := "http://[::1]//", restPath := "." } = .ok r ∧
      r.collection.isHttp = true ∧ r.collection.path.write = "//" ∧
      r.messageUrl (.number 1) = .ok u ∧ u.path.write = "/1" ∧
      ¬ ∃ segment, u.path.write = r.collection.path.write ++ segment := by
  let r : Remote := { Remote.loopback with collection := .loopback (.segments ["", ""]) }
  have hr : Remote.ofSettings { baseUrl := "http://[::1]//", restPath := "." } = .ok r := rfl
  have hu : r.messageUrl (.number 1) = .ok (.loopback (.segments ["1"])) := rfl
  have hwritten : r.collection.path.write = "//" := by decide
  refine ⟨r, _, hr, by decide, hwritten, hu, by decide, ?_⟩
  rintro ⟨segment, heq⟩
  rw [hwritten] at heq
  have htext := congrArg String.toList heq
  rw [String.toList_append] at htext
  exact absurd (List.cons.inj (List.cons.inj htext).2).1 (by decide)

end Remote

end Postbox
