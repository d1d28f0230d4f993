import Postbox.Proofs.Steps
import Postbox.Service.Remote

/-! # Reading — what holds of all addresses that are read

    The readers of addresses hand parts of their text to each other, and parts of the base.
    A property of addresses that each part keeps (`Url.Closed`) holds of what is read below
    a base, if it holds of the base (`Url.Closed.readWith`), and of the collection of
    every service (`Url.Closed.collection`).  The case analysis over the readers is made
    here once, for all properties. -/

namespace Postbox

namespace Url

/-- The address of a scheme and nothing else. -/
def bare (scheme : String) : Url := { scheme := scheme, path := .segments [] }

/-- A segment of an address with the property, under a scheme. -/
def IsNameOf (P : Url → Prop) (scheme name : String) : Prop :=
  ∃ u names, P u ∧ u.scheme = scheme ∧ u.path = .segments names ∧ name ∈ names

theorem names_of_path {P : Url → Prop} {u : Url} (hu : P u) {names : List String}
    (hpath : u.path = .segments names) : ∀ name ∈ names, IsNameOf P u.scheme name :=
  fun _ hname => ⟨u, names, hu, rfl, hpath, hname⟩

/-- The segments of the file that a text is relative to, if there is one. -/
def namesBelow (base : Option Url) : List String :=
  match base with
  | some { path := .segments names, .. } => names
  | _                                    => []

/-- A property that holds of whatever is put together from the parts of a text and from
    addresses with the property. -/
structure Closed (P : Url → Prop) : Prop where
  scheme {cs rest : List Char} {scheme : String} (h : scheme? cs = some (scheme, rest)) :
    P (bare scheme)
  ofBase {u : Url} (h : P u) : P (bare u.scheme)
  authority {scheme : String} {cs rest : List Char} {a : Authority} (h : P (bare scheme))
    (read : readAuthority scheme cs = .ok (a, rest)) : P { bare scheme with authority := some a }
  flat {scheme : String} (h : P (bare scheme)) (plain : isSpecial scheme = false)
    (cs : List Char) :
    P { bare scheme with path := .flat (String.ofList (escape Reserved.controls cs)) }
  localFile : P localFile
  host {u : Url} {cs : List Char} {name : String} (h : P u) (read : specialHost cs = .ok name) :
    P { u with authority := some { host := name } }
  path {u : Url} {done : List String} (h : P u)
    (below : ∀ name ∈ done, IsNameOf P u.scheme name)
    (cs : List Char) : P (u.withPath done cs)
  ending {u : Url} (h : P u) (cs : List Char) : P (u.withEnd cs)
  fragment {u : Url} (h : P u) (special : Bool) (cs : List Char) :
    P { u with fragment := (readEnd special cs).2 }
  withoutFragment {u : Url} (h : P u) : P u.withoutFragment
  withSlash {u : Url} (h : P u) : P u.withSlash

namespace Closed

variable {P : Url → Prop} (h : Closed P)

include h

/-- An address with a path that is read from its beginning. -/
theorem wholePath {u : Url} (hu : P u) (cs : List Char) : P (u.withPath [] cs) :=
  h.path hu (List.forall_mem_nil _) cs

/-- An address behind two slashes. -/
theorem readHierarchy {scheme : String} (hs : P (bare scheme)) {cs : List Char} {u : Url}
    (hread : Url.readHierarchy scheme cs = .ok u) : P u := by
  rw [Url.readHierarchy] at hread
  cases hauthority : readAuthority scheme cs with
  | error p =>
      rw [hauthority] at hread
      exact nomatch hread
  | ok found =>
      obtain ⟨authority, rest⟩ := found
      rw [hauthority] at hread
      have hbare := h.authority hs hauthority
      -- behind the authority comes a path, an end without one, or nothing
      cases rest with
      | nil =>
          rw [← Except.ok.inj hread]
          split
          · exact h.wholePath hbare _
          · exact hbare
      | cons c behind =>
          dsimp only [bind, Except.bind] at hread
          split at hread
          · rw [← Except.ok.inj hread]
            exact h.wholePath hbare _
          · split at hread
            · rw [← Except.ok.inj hread]
              exact h.ending hbare _
            · rw [← Except.ok.inj hread]
              exact h.wholePath hbare _

/-- An address relative to one with the property. -/
theorem readRelative {base u : Url} (hb : P base) {names : List String}
    (hnames : ∀ name ∈ names, IsNameOf P base.scheme name) {cs : List Char}
    (hread : Url.readRelative base names cs = .ok u) : P u := by
  unfold Url.readRelative at hread
  split at hread
  · rw [← Except.ok.inj hread]
    exact h.withoutFragment hb
  · rw [← Except.ok.inj hread]
    exact h.ending hb _
  · rw [← Except.ok.inj hread]
    exact h.fragment hb _ _
  · split at hread
    · split at hread
      · exact h.readHierarchy (h.ofBase hb) hread
      · dsimp only at hread
        split at hread
        · exact h.readHierarchy (h.ofBase hb) hread
        · rw [← Except.ok.inj hread]
          exact h.wholePath hb _
    · rw [← Except.ok.inj hread]
      exact h.path hb (fun name hname => hnames name (List.dropLast_subset _ hname)) _

/-- A file below an address with the property. -/
theorem readFileBelow {base : Url} (hb : P base) (hfile : base.scheme = "file")
    {names : List String} (hnames : ∀ name ∈ names, IsNameOf P "file" name) (cs : List Char) :
    P (Url.readFileBelow base names cs) := by
  have hdrive : ∀ name ∈ (names.take 1).filter (isProperDrive ·.toList), IsNameOf P "file" name :=
    fun name hname => hnames name (List.mem_of_mem_take (List.mem_filter.mp hname).1)
  have hbase : ∀ name ∈ names, IsNameOf P base.scheme name := hfile ▸ hnames
  have hfront : ∀ name ∈ names.dropLast, IsNameOf P base.scheme name :=
    fun name hname => hbase name (List.dropLast_subset _ hname)
  unfold Url.readFileBelow
  split
  · exact h.withoutFragment hb
  · exact h.ending hb _
  · exact h.fragment hb _ _
  · split
    · dsimp only
      split
      · exact h.wholePath h.localFile _
      · split
        · exact h.wholePath hb _
        · exact h.path h.localFile hdrive _
    · split
      · exact h.wholePath h.localFile _
      · split
        · exact h.path hb hbase _
        · exact h.path hb hfront _

/-- A file behind two slashes. -/
theorem readFileHost {cs : List Char} {u : Url} (hread : Url.readFileHost cs = .ok u) : P u := by
  rw [Url.readFileHost] at hread
  dsimp only at hread
  split at hread
  · rw [← Except.ok.inj hread]
    exact h.wholePath h.localFile _
  · cases hname : specialHost (withoutBreaks (cs.takeWhile fun c => !endsAuthority true c)) with
    | error p =>
        rw [hname] at hread
        exact nomatch hread
    | ok name =>
        rw [hname] at hread
        rw [← Except.ok.inj hread]
        -- the host is set behind the path
        exact iteInduction (fun _ => h.wholePath h.localFile _)
          (fun _ => h.host (h.wholePath h.localFile _) hname)

/-- A file, also relative to another with the property. -/
theorem readFile {base : Option Url} (hb : ∀ b, base = some b → P b ∧ b.scheme = "file")
    {cs : List Char} {u : Url} (hread : Url.readFile base cs = .ok u) : P u := by
  have hbase : P (base.getD Url.localFile) ∧ (base.getD Url.localFile).scheme = "file" := by
    cases base with
    | none => exact ⟨h.localFile, rfl⟩
    | some b => exact hb b rfl
  have hnames : ∀ name ∈ namesBelow base, IsNameOf P "file" name := by
    unfold namesBelow
    split
    · obtain ⟨hu, hfile⟩ := hb _ rfl
      exact hfile ▸ names_of_path hu rfl
    · exact List.forall_mem_nil _
  unfold Url.readFile at hread
  dsimp only at hread
  split at hread
  · rw [← Except.ok.inj hread]
    exact h.readFileBelow hbase.1 hbase.2 hnames _
  · split at hread
    · rw [← Except.ok.inj hread]
      exact h.readFileBelow hbase.1 hbase.2 hnames _
    · split at hread
      · exact h.readFileHost hread
      · rw [← Except.ok.inj hread]
        exact h.readFileBelow hbase.1 hbase.2 hnames _

/-- An address outside of the special schemes. -/
theorem readPlain {scheme : String} (hs : P (bare scheme)) (hplain : isSpecial scheme = false)
    {cs : List Char} {u : Url} (hread : Url.readPlain scheme cs = .ok u) : P u := by
  unfold Url.readPlain at hread
  split at hread
  · exact h.readHierarchy hs hread
  · rw [← Except.ok.inj hread]
    exact h.wholePath hs _
  · rw [← Except.ok.inj hread]
    exact h.ending (h.flat hs hplain _) _

/-- An address behind its scheme. -/
theorem readBehindScheme {base : Option Url} (hb : ∀ b, base = some b → P b) {scheme : String}
    (hs : P (bare scheme)) {cs : List Char} {u : Url}
    (hread : Url.readBehindScheme base scheme cs = .ok u) : P u := by
  unfold Url.readBehindScheme at hread
  split at hread
  · dsimp only at hread
    split at hread
    · split at hread
      · exact h.readRelative (hb _ rfl) (names_of_path (hb _ rfl) rfl) hread
      · exact h.readHierarchy hs hread
    · exact h.readHierarchy hs hread
  · rename_i hplain
    exact h.readPlain hs (Bool.eq_false_iff.mpr hplain) hread

/-- An address without a scheme. -/
theorem readBelow {base : Url} (hb : P base) {cs : List Char} {u : Url}
    (hread : Url.readBelow base cs = .ok u) : P u := by
  unfold Url.readBelow at hread
  split at hread
  · rw [← Except.ok.inj hread]
    exact h.fragment hb _ _
  · exact nomatch hread
  · rename_i hpath _
    split at hread
    · rename_i hfile
      refine h.readFile ?_ hread
      intro b hbase
      rw [← Option.some.inj hbase]
      exact ⟨hb, beq_iff_eq.mp hfile⟩
    · exact h.readRelative hb (names_of_path hb hpath) hread

/-- **What is read below an address with the property has it.** -/
theorem readWith {base : Option Url} (hb : ∀ b, base = some b → P b) {cs : List Char} {u : Url}
    (hread : Url.readWith base cs = .ok u) : P u := by
  unfold Url.readWith at hread
  split at hread
  · refine h.readFile ?_ hread
    intro b hbase
    obtain ⟨hbase, hfile⟩ := Option.filter_eq_some_iff.mp hbase
    exact ⟨hb b hbase, beq_iff_eq.mp hfile⟩
  · rename_i hscheme
    exact h.readBehindScheme hb (h.scheme hscheme) hread
  · exact nomatch hread
  · exact h.readBelow (hb _ rfl) hread

/-- An address that is read by itself. -/
theorem read {s : String} {u : Url} (hread : Url.read s = .ok u) : P u := by
  refine h.readWith ?_ hread
  intro b hb
  cases hb

/-- An address that is read below one with the property. -/
theorem join {base : Url} (hb : P base) {s : String} {u : Url} (hread : base.join s = .ok u) :
    P u := by
  refine h.readWith ?_ hread
  intro b hbase
  rw [← Option.some.inj hbase]
  exact hb

end Closed

end Url

/-! ## The collection -/

/-- The collection's address is the REST path below the base address. -/
theorem Settings.collectionUrl_of_base {s : Settings} {base : Url}
    (h : Url.read s.baseUrl = .ok base) :
    s.collectionUrl = (base.withSlash.join s.relativePath).mapError .url := by
  rw [collectionUrl, h]
  dsimp only [bind, Except.bind, Except.mapError]

namespace Remote

/-- What the settings must give for a service to be made of them. -/
theorem ofSettings_parts {s : Settings} {r : Remote} (h : ofSettings s = .ok r) :
    headersOf s = .ok r.headers ∧ s.collectionUrl = .ok r.collection := by
  rw [ofSettings] at h
  cases hvalid : s.validate with
  | error p =>
      rw [hvalid] at h
      exact nomatch h
  | ok _ =>
      cases hheaders : headersOf s with
      | error p =>
          rw [hvalid, hheaders] at h
          exact nomatch h
      | ok headers =>
          cases hurl : s.collectionUrl with
          | error p =>
              rw [hvalid, hheaders, hurl] at h
              exact nomatch h
          | ok u =>
              rw [hvalid, hheaders, hurl] at h
              rw [← Except.ok.inj h]
              exact ⟨rfl, rfl⟩

/-- The collection of a service is that of its settings. -/
theorem ofSettings_collection {s : Settings} {r : Remote} (h : ofSettings s = .ok r) :
    s.collectionUrl = .ok r.collection :=
  (ofSettings_parts h).2

end Remote

/-- **The collection of every service has the property.** -/
theorem Url.Closed.collection {P : Url → Prop} (h : Closed P) {s : Settings} {r : Remote}
    (accepted : Remote.ofSettings s = .ok r) : P r.collection := by
  have hurl := Remote.ofSettings_collection accepted
  cases hbase : Url.read s.baseUrl with
  | error p =>
      rw [Settings.collectionUrl, hbase] at hurl
      exact nomatch hurl
  | ok base =>
      rw [Settings.collectionUrl_of_base hbase] at hurl
      exact h.join (h.withSlash (h.read hbase)) (mapError_eq_ok.mp hurl)

end Postbox
