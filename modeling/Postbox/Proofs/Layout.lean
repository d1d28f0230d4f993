import Postbox.Proofs.Validity
import Postbox.Proofs.Url.Rereading

/-! # Layout — the collection does not depend on the style of slashes

    A REST path of plain segments is laid out behind the path of the base address, segment by
    segment, with one slash between all of them and one at the end.  Slashes in front of the
    REST path, a slash at its end and a slash at the end of the base address change nothing
    (`collection_layout`).

    Two texts are read for that.  The base address gets its slash by its path being set again,
    with the slash behind it.  Its path was read, so it is settled and read again as it was
    (`Url.withSlash_eq_setPath`).  And plain segments are settled too, so the REST path is read
    below the base address as it is (`Url.join_plain`). -/

namespace Postbox

namespace Url

/-! ## Plain segments -/

/-- Letters and digits of ASCII, and the four other characters that no address has to escape. -/
def isUnreserved (c : Char) : Bool := c.isAlphanum || "-_~.".toList.contains c

/-- A segment of unreserved characters that stands neither for its place nor for the one above. -/
structure PlainSegment (segment : String) : Prop where
  nonempty : segment ≠ ""
  notHere : segment ≠ "."
  notAbove : segment ≠ ".."
  unreserved : ∀ c ∈ segment.toList, isUnreserved c = true

theorem isGraphic_of_isUnreserved {c : Char} (h : isUnreserved c = true) :
    Text.isGraphic c = true := by
  rcases Bool.or_eq_true_iff.mp h with halnum | hmark
  · exact Text.isGraphic_of_isAlphanum halnum
  · exact Text.forall_mem_of_all (P := fun c => Text.isGraphic c = true) (by decide) c
      (List.contains_iff_mem.mp hmark)

/-- Unreserved characters stand in segments as they are. -/
theorem name_of_isUnreserved {c : Char} (h : isUnreserved c = true) : Reserved.name c = false :=
  Text.forall_ascii (P := fun c => isUnreserved c = true → Reserved.name c = false) (by decide)
    (Text.ascii_of_isGraphic (isGraphic_of_isUnreserved h)) h

/-- No mark of an address is unreserved. -/
theorem ne_of_isUnreserved {c mark : Char} (h : isUnreserved c = true)
    (hmark : isUnreserved mark = false) : c ≠ mark := by
  rintro rfl
  exact Bool.false_ne_true (hmark.symm.trans h)

/-- Without percent signs there are no escaped dots. -/
theorem unescapeDots_plain {cs : List Char} (h : ∀ c ∈ cs, c ≠ '%') : unescapeDots cs = cs := by
  fun_induction unescapeDots cs with
  | case1 e rest _ _ => exact absurd rfl (h '%' List.mem_cons_self)
  | case2 e rest _ _ => exact absurd rfl (h '%' List.mem_cons_self)
  | case3 c rest _ ih => rw [ih fun d hd => h d (List.mem_cons_of_mem _ hd)]
  | case4 => rfl

/-- A plain segment is read as it is. -/
theorem PlainSegment.settled {segment : String} (h : PlainSegment segment) :
    SettledName segment := by
  have hdots : unescapeDots segment.toList = segment.toList :=
    unescapeDots_plain fun c hc => ne_of_isUnreserved (h.unreserved c hc) (by decide)
  refine ⟨fun c hc => ?_, ?_, ?_⟩
  · have hc := h.unreserved c hc
    exact ⟨Text.ascii_of_isGraphic (isGraphic_of_isUnreserved hc), name_of_isUnreserved hc⟩
  · rw [isAbove, hdots]
    exact beq_eq_false_iff_ne.mpr fun heq => h.notAbove (String.toList_inj.mp heq)
  · rw [isHere, hdots]
    exact beq_eq_false_iff_ne.mpr fun heq => h.notHere (String.toList_inj.mp heq)

/-! ## The slash of the base address -/

/-- The address with its path set to what a text is read as. -/
def setPath (u : Url) (text : String) : Url :=
  { u with path := .segments ((Path.scan u.scheme [] (text.toList.drop 1)).1.names u.scheme) }

/-- The text of a path with a slash at its end, which is added if it is missing. -/
def slashed (path : String) : String :=
  if path.toList.getLast? = some '/' then path else path ++ "/"

/-- A path ends in no slash if its last segment is not empty. -/
theorem getLast_write (front : List String) {last : String} (hsome : last ≠ "")
    (h : SettledName last) :
    (Path.segments (front ++ [last])).write.toList.getLast? ≠ some '/' := by
  obtain ⟨before, c, hc⟩ := (List.eq_nil_or_concat' last.toList).resolve_left
    fun hnil => hsome (String.toList_eq_nil_iff.mp hnil)
  have hclear := (h.clear c (hc ▸ List.mem_concat_self)).2
  have hwrite : (Path.segments (front ++ [last])).write.toList
      = (Path.segments front).write.toList ++ '/' :: last.toList := by
    rw [Path.write_append, String.toList_append, Path.write_segments [last]]
    exact congrArg _ (List.append_nil _)
  rw [hwrite, hc, ← List.cons_append, ← List.append_assoc, List.getLast?_concat]
  intro heq
  rw [Option.some.inj heq] at hclear
  exact nomatch hclear

/-- A settled path with a slash at its end is written as the segments before a final slash, and
    the slash. -/
theorem slashed_write {names : List String} (h : ∀ name ∈ names, SettledName name) :
    slashed (Path.segments names).write = (Path.segments (Path.stem names ++ [""])).write := by
  rcases List.eq_nil_or_concat' names with rfl | ⟨front, last, rfl⟩
  · rfl
  · by_cases hlast : last = ""
    · subst hlast
      have hslash : (Path.segments (front ++ [""])).write.toList.getLast? = some '/' := by
        rw [Path.write_slash, String.toList_append]
        exact List.getLast?_concat
      rw [slashed, if_pos hslash, Path.stem, if_pos List.getLast?_concat, List.dropLast_concat]
    · have hopen := getLast_write front hlast (h last (List.mem_append_right _ (.head _)))
      have hkept : (front ++ [last]).getLast? ≠ some "" := by
        rw [List.getLast?_concat]
        exact fun heq => hlast (Option.some.inj heq)
      rw [slashed, if_neg hopen, Path.stem, if_neg hkept, Path.write_slash]

/-- **The slash is added as if the path were read again** with the slash behind it: what was read
    once is read as it is. -/
theorem withSlash_eq_setPath {u : Url} (hhttp : u.isHttp = true) (h : u.Settled)
    {names : List String} (hpath : u.path = .segments names) :
    u.withSlash = u.setPath (slashed u.path.write) := by
  obtain ⟨hspecial, hfile⟩ := special_of_isHttp hhttp
  have hslash := withSlash_path hhttp hpath
  have hsettled : ∀ name ∈ Path.stem names ++ [""], SettledName name := by
    refine (settled_closed.withSlash (fun _ => h) ?_).names _ ?_
    · rw [hslash]
      exact hhttp
    · rw [hslash]
  obtain ⟨name, rest, hcons⟩ := List.exists_cons_of_ne_nil (List.concat_ne_nil "" (Path.stem names))
  rw [hslash, setPath, hpath, slashed_write (h.names names hpath)]
  rw [hcons] at hsettled ⊢
  rw [write_segmentsText, List.drop_one, List.tail_cons,
    scan_segmentsText hspecial hfile [] hsettled, Trail.names, hfile, if_neg Bool.false_ne_true,
    List.reverse_reverse]
  rfl

/-- Paths that are written as the same behind the slash have the same segments before it: the text
    is read again, as one path. -/
theorem stem_of_slashed {u v : Url} (hu : u.isHttp = true) (hsettled : u.Settled)
    {names : List String} (hnames : u.path = .segments names) (hv : v.isHttp = true)
    (hsettled' : v.Settled) {names' : List String} (hnames' : v.path = .segments names')
    (hscheme : u.scheme = v.scheme) (h : slashed u.path.write = slashed v.path.write) :
    Path.stem names = Path.stem names' := by
  have hread := congrArg Url.path (withSlash_eq_setPath hu hsettled hnames)
  have hread' := congrArg Url.path (withSlash_eq_setPath hv hsettled' hnames')
  rw [setPath, h, hscheme] at hread
  rw [setPath] at hread'
  have hpaths := hread.trans hread'.symm
  rw [withSlash_path hu hnames, withSlash_path hv hnames'] at hpaths
  exact List.append_cancel_right (Path.segments.inj hpaths)

/-! ## Plain segments below an address -/

/-- An empty segment behind the others is a slash at the end. -/
theorem segmentsText_slash (name : String) (names : List String) :
    segmentsText name (names ++ [""]) = segmentsText name names ++ ['/'] := by
  rw [segmentsText, segmentsText, List.flatMap_append, List.append_assoc]
  rfl

/-- Segments with slashes between them. -/
theorem intercalate_segmentsText (name : String) (names : List String) :
    ("/".intercalate (name :: names)).toList = segmentsText name names := by
  rw [String.toList_intercalate]
  induction names generalizing name with
  | nil => exact (List.intercalate_singleton ..).trans (List.append_nil _).symm
  | cons next names ih =>
      rw [List.map_cons, List.map_cons, List.intercalate_cons_cons, ← List.map_cons, ih,
        segmentsText, segmentsText, List.flatMap_cons]
      simp

/-- A text without colons has no scheme. -/
theorem scheme_none {cs : List Char} (h : ∀ c ∈ cs, c ≠ ':') : scheme? cs = none := by
  have hall : cs.takeWhile (· != ':') = cs :=
    List.takeWhile_eq_self_iff.mpr fun c hc => bne_iff_ne.mpr (h c hc)
  rw [scheme?, hall, decide_eq_false (Nat.lt_irrefl _), Bool.false_and, Bool.false_and,
    if_neg Bool.false_ne_true]

section

variable {name : String} {names : List String}
  (hplain : ∀ segment ∈ name :: names, PlainSegment segment)

include hplain

/-- With a slash at the end plain segments are read as they are. -/
theorem settled_plain : ∀ part ∈ name :: (names ++ [""]), SettledName part := by
  obtain ⟨hname, hnames⟩ := List.forall_mem_cons.mp hplain
  exact List.forall_mem_cons.mpr ⟨hname.settled, List.forall_mem_append.mpr
    ⟨fun part hpart => (hnames part hpart).settled,
      List.forall_mem_singleton.mpr settledName_empty⟩⟩

/-- Their text has slashes and unreserved characters. -/
theorem mem_plain : ∀ c ∈ segmentsText name (names ++ [""]), c = '/' ∨ isUnreserved c = true := by
  obtain ⟨hname, hnames⟩ := List.forall_mem_cons.mp hplain
  exact forall_mem_segmentsText (Or.inl rfl) (List.forall_mem_cons.mpr
    ⟨fun c hc => Or.inr (hname.unreserved c hc), List.forall_mem_append.mpr
      ⟨fun part hpart c hc => Or.inr ((hnames part hpart).unreserved c hc),
        List.forall_mem_singleton.mpr (List.forall_mem_nil _)⟩⟩)

/-- It begins with an unreserved character, whatever segments there are behind the first. -/
theorem head_plain (others : List String) :
    ∃ c more, segmentsText name others = c :: more ∧ isUnreserved c = true := by
  have hname := hplain name (.head _)
  obtain ⟨c, more, hc⟩ : ∃ c more, name.toList = c :: more :=
    List.exists_cons_of_ne_nil fun hnil => hname.nonempty (String.toList_eq_nil_iff.mp hnil)
  have hcons : segmentsText name others
      = c :: (more ++ others.flatMap fun name => '/' :: name.toList) := by
    rw [segmentsText, hc, List.cons_append]
  exact ⟨c, _, hcons, hname.unreserved c (hc ▸ List.mem_cons_self)⟩

/-- It ends in no slash unless one is put there. -/
theorem getLast_plain : (segmentsText name names).getLast? ≠ some '/' := by
  obtain ⟨front, last, hlast⟩ := (List.eq_nil_or_concat' (name :: names)).resolve_left
    (List.cons_ne_nil _ _)
  have hplain' := hplain last (hlast ▸ List.mem_concat_self)
  have hopen := getLast_write front hplain'.nonempty hplain'.settled
  rw [← hlast, write_segmentsText] at hopen
  refine fun heq => hopen ?_
  rw [List.getLast?_cons, heq]
  rfl

/-- **Plain segments are added to a path** that ends in a slash, and a slash behind them. -/
theorem join_plain {u : Url} (hhttp : u.isHttp = true) {done : List String}
    (hpath : u.path = .segments (done ++ [""])) {text : String}
    (htext : text.toList = segmentsText name (names ++ [""])) :
    u.join text = .ok { u with
      path := .segments (done ++ name :: (names ++ [""])), query := none, fragment := none } := by
  obtain ⟨hspecial, hfile⟩ := special_of_isHttp hhttp
  have hchars : ∀ c ∈ text.toList, c = '/' ∨ isUnreserved c = true := htext ▸ mem_plain hplain
  have hgraphic : Text.Graphic text := fun c hc =>
    (hchars c hc).elim (fun hslash => hslash ▸ by decide) isGraphic_of_isUnreserved
  have hscheme : scheme? (clean text) = none := by
    rw [clean_graphic hgraphic]
    refine scheme_none fun c hc => ?_
    rcases hchars c hc with rfl | hunreserved
    · decide
    · exact ne_of_isUnreserved hunreserved (by decide)
  obtain ⟨c, more, hcons, hfirst⟩ := head_plain hplain (names ++ [""])
  have hunbroken : withoutBreaks text.toList = segmentsText name (names ++ [""]) := by
    rw [withoutBreaks_graphic hgraphic, htext]
  have hslash : isSlash true c = false :=
    (Bool.or_eq_false_iff.mp (name_of_isUnreserved hfirst)).2
  have hmark : (c == '?' || c == '#') = false :=
    Bool.or_eq_false_iff.mpr ⟨beq_eq_false_iff_ne.mpr (ne_of_isUnreserved hfirst (by decide)),
      beq_eq_false_iff_ne.mpr (ne_of_isUnreserved hfirst (by decide))⟩
  rw [join_schemeless hscheme, clean_graphic hgraphic,
    readBelow_path hhttp hpath (hunbroken.trans hcons) hslash hmark, ← hcons, List.dropLast_concat,
    withPath, scan_segmentsText hspecial hfile done (settled_plain hplain)]
  dsimp only
  rw [Trail.names, hfile, if_neg Bool.false_ne_true, List.reverse_reverse]
  rfl

end

/-! ## Addresses behind an address -/

/-- What is written of segments behind a slash: each has one behind it. -/
theorem Path.write_behind (front segments : List String) :
    (Path.segments (front ++ (segments ++ [""]))).write
      = (Path.segments (front ++ [""])).write ++ String.join (segments.map (· ++ "/")) := by
  have hsegments : (Path.segments (segments ++ [""])).write
      = "/" ++ String.join (segments.map (· ++ "/")) := by
    induction segments with
    | nil => rfl
    | cons segment segments ih =>
        have hfirst : (Path.segments [segment]).write = "/" ++ segment := by
          rw [Path.write, List.map_singleton, String.join_cons, String.join_nil,
            String.append_empty]
        rw [List.cons_append, ← List.singleton_append, Path.write_append, ih, List.map_cons,
          String.join_cons, hfirst]
        simp only [String.append_assoc]
  rw [Path.write_append, hsegments, Path.write_slash, String.append_assoc]

/-- An address behind another one: its scheme, user, host and TCP number, its path with a slash at
    the end, and behind that segments with a slash behind each, but neither query nor fragment. -/
structure LaidOut (u base : Url) (segments : List String) : Prop where
  scheme : u.scheme = base.scheme
  authority : u.authority = base.authority
  path : u.path.write = slashed base.path.write ++ String.join (segments.map (· ++ "/"))
  query : u.query = none
  fragment : u.fragment = none

/-- The text of such an address. -/
theorem LaidOut.write {u base : Url} {segments : List String} (h : u.LaidOut base segments)
    {a : Authority} (ha : base.authority = some a) :
    u.write = base.scheme ++ "://" ++ a.write ++ slashed base.path.write ++
      String.join (segments.map (· ++ "/")) := by
  have hmarks : "://" = ":" ++ "//" := rfl
  rw [Url.write, h.authority, ha, h.query, h.fragment, h.scheme, h.path, hmarks]
  simp only [Option.map_none, Option.getD_none, String.append_empty, String.append_assoc]

end Url

/-! ## The collection -/

namespace Settings

open Url

/-- A REST path: slashes, segments with one slash between them, and perhaps a slash. -/
def restPathOf (slashes : Nat) (segments : List String) (final : Bool) : String :=
  String.ofList (List.replicate slashes '/') ++ "/".intercalate segments ++
    (if final then "/" else "")

variable {s : Settings}

/-- The path that is resolved has neither the slashes in front nor the choice at the end. -/
theorem relativePath_restPathOf {slashes : Nat} {name : String} {names : List String} {final : Bool}
    (hplain : ∀ segment ∈ name :: names, PlainSegment segment)
    (hrest : s.restPath = restPathOf slashes (name :: names) final) :
    s.relativePath.toList = segmentsText name (names ++ [""]) := by
  obtain ⟨c, more, hcons, hfirst⟩ := head_plain hplain names
  have hdrop : s.restPath.toList.dropWhile (· == '/')
      = segmentsText name names ++ (if final then "/" else "").toList := by
    rw [hrest, restPathOf, String.toList_append, String.toList_append, String.toList_ofList,
      intercalate_segmentsText, List.append_assoc,
      List.dropWhile_append_of_pos fun d hd => beq_iff_eq.mpr (List.eq_of_mem_replicate hd), hcons]
    exact List.dropWhile_cons_of_neg fun heq =>
      ne_of_isUnreserved hfirst (by decide) (beq_iff_eq.mp heq)
  rw [relativePath, hdrop, String.toList_ofList, segmentsText_slash]
  cases final with
  | false =>
      have hopen := getLast_plain hplain
      rw [if_neg Bool.false_ne_true, String.toList_empty, List.append_nil,
        if_neg fun heq => hopen (beq_iff_eq.mp heq)]
  | true =>
      exact if_pos (beq_iff_eq.mpr List.getLast?_concat)

/-- **The collection lies behind the slash of the base address**, segment by segment. -/
theorem collectionUrl_plain {base : Url} (hhttp : base.isHttp = true)
    (hbase : Url.read s.baseUrl = .ok base) {names : List String}
    (hnames : base.path = .segments names) {slashes : Nat} {segments : List String} {final : Bool}
    (hsome : segments ≠ []) (hplain : ∀ segment ∈ segments, PlainSegment segment)
    (hrest : s.restPath = restPathOf slashes segments final) :
    s.collectionUrl = .ok { base with
      path := .segments (Path.stem names ++ (segments ++ [""]))
      query := none
      fragment := none } := by
  obtain ⟨name, more, rfl⟩ := List.exists_cons_of_ne_nil hsome
  have hslash := Url.withSlash_path hhttp hnames
  have hhttp' : base.withSlash.isHttp = true := by
    rw [hslash]
    exact hhttp
  rw [collectionUrl_of_base hbase, join_plain hplain hhttp' (by rw [hslash])
    (relativePath_restPathOf hplain hrest), hslash]
  rfl

end Settings

/-- **The collection does not depend on the style of slashes.**  It is the base address, with a
    slash at the end of its path, and behind that the segments of the REST path with a slash behind
    each, without query and fragment.  The slash of the base address is added by reading its path
    again, which changes nothing else.  Another base address that differs by that slash, and other
    slashes in front of the REST path and at its end make the same collection. -/
theorem collection_layout {v s : Settings} (accepted : v.validate = .ok ())
    (hbase : s.baseUrl = v.baseUrl) {slashes : Nat} {segments : List String} {final : Bool}
    (hsome : segments ≠ []) (hplain : ∀ segment ∈ segments, Url.PlainSegment segment)
    (hrest : s.restPath = Settings.restPathOf slashes segments final) :
    ∃ base u a, Url.read s.baseUrl = .ok base ∧ s.collectionUrl = .ok u ∧ u.LaidOut base segments ∧
      base.authority = some a ∧ u.write = base.scheme ++ "://" ++ a.write ++
        Url.slashed base.path.write ++ String.join (segments.map (· ++ "/")) ∧
      base.withSlash = base.setPath (Url.slashed base.path.write) ∧
      ∀ (t : Settings) (base' : Url) (slashes' : Nat) (final' : Bool),
        Url.read t.baseUrl = .ok base' → base'.scheme = base.scheme →
        base'.authority = base.authority →
        Url.slashed base'.path.write = Url.slashed base.path.write →
        t.restPath = Settings.restPathOf slashes' segments final' → t.collectionUrl = .ok u := by
  obtain ⟨base, hread, hhttp⟩ := (Settings.validate_eq_ok.mp accepted).base
  rw [← hbase] at hread
  obtain ⟨names, hnames⟩ := (Url.fits_read hread).hasSegments (Url.special_of_isHttp hhttp).1
  obtain ⟨a, ha⟩ := Url.authority_readWith (by rintro b ⟨⟩) hread hhttp
  have hsettled := Url.settled_closed.read hread hhttp
  have hslashed := Url.slashed_write (hsettled.names names hnames)
  have hcollection := Settings.collectionUrl_plain hhttp hread hnames hsome hplain hrest
  -- the stem and the empty segment behind it are written as the path with its slash
  have hlaid : Url.LaidOut { base with
      path := .segments (Url.Path.stem names ++ (segments ++ [""])), query := none
      fragment := none } base segments := by
    refine ⟨rfl, rfl, ?_, rfl, rfl⟩
    rw [hnames, hslashed]
    exact Url.Path.write_behind _ _
  refine ⟨base, _, a, hread, hcollection, hlaid, ha, hlaid.write ha,
    Url.withSlash_eq_setPath hhttp hsettled hnames, ?_⟩
  intro t base' slashes' final' hread' hscheme hauthority hpath hrest'
  have hhttp' : base'.isHttp = true := by
    rw [Url.isHttp, hscheme]
    exact hhttp
  obtain ⟨names', hnames'⟩ := (Url.fits_read hread').hasSegments (Url.special_of_isHttp hhttp').1
  -- the other base address has the same segments before its slash
  have hstem : Url.Path.stem names' = Url.Path.stem names :=
    Url.stem_of_slashed hhttp' (Url.settled_closed.read hread' hhttp') hnames' hhttp hsettled hnames
      hscheme hpath
  rw [Settings.collectionUrl_plain hhttp' hread' hnames' hsome hplain hrest', hstem, hscheme,
    hauthority]

/-- Settings with a base address and a REST path of some style. -/
def Settings.styled (baseUrl restPath : String) : Settings :=
  { baseUrl := baseUrl, restPath := restPath }

/-- Two slashes in front behind a context path without a slash, one at the end behind one with a
    slash. -/
theorem collection_layout_context :
    (Settings.styled "http://[::1]/app?q#f" "//a/b.c").validate = .ok () ∧
    (∀ segment ∈ ["a", "b.c"], Url.PlainSegment segment) ∧
    (Settings.styled "http://[::1]/app?q#f" "//a/b.c").restPath
      = Settings.restPathOf 2 ["a", "b.c"] false ∧
    ∃ u, (Settings.styled "http://[::1]/app?q#f" "//a/b.c").collectionUrl = .ok u ∧
      (Settings.styled "http://[::1]/app/" "a/b.c/").collectionUrl = .ok u ∧
      u.write = "http://[::1]/app/a/b.c/" := by
  have accepted : (Settings.styled "http://[::1]/app?q#f" "//a/b.c").validate = .ok () := rfl
  have hplain : ∀ segment ∈ ["a", "b.c"], Url.PlainSegment segment :=
    List.forall_mem_cons.mpr ⟨⟨by decide, by decide, by decide, List.all_eq_true.mp (by decide)⟩,
      List.forall_mem_singleton.mpr
        ⟨by decide, by decide, by decide, List.all_eq_true.mp (by decide)⟩⟩
  have hrest : (Settings.styled "http://[::1]/app?q#f" "//a/b.c").restPath
      = Settings.restPathOf 2 ["a", "b.c"] false := by decide
  obtain ⟨base, u, a, hread, hu, -, ha, hwrite, -, hagain⟩ :=
    collection_layout accepted rfl (by decide) hplain hrest
  let app : Url := { Url.loopback (.segments ["app"]) with query := some "q", fragment := some "f" }
  obtain rfl : app = base := Except.ok.inj hread
  obtain rfl : { host := "[::1]" } = a := Option.some.inj ha
  refine ⟨accepted, hplain, hrest, u, hu, ?_, hwrite.trans (by decide)⟩
  exact hagain (Settings.styled "http://[::1]/app/" "a/b.c/") (.loopback (.segments ["app", ""]))
    0 true rfl rfl rfl (by decide) (by decide)

end Postbox
