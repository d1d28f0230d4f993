import Postbox.Proofs.Reading

/-! # Addresses — paths fit their schemes

    A flat path is possible outside of the special schemes only, and the path of a
    file begins with an empty segment only where that is all of it (`Path.Fits`).
    What is read below a base keeps the base's path or gets one of segments that are
    read from the text, so every reader gives addresses whose paths fit
    (`Url.fits_closed`), and so does every step from the settings to the collection.
    The collection of a service that speaks HTTP has a path of segments, so each of its
    messages has an address. -/

namespace Postbox

namespace Url

/-- A path that an address of a scheme can have. -/
def Path.Fits (scheme : String) : Path → Prop
  | .segments names => scheme = "file" → names = [""] ∨ names.head? ≠ some ""
  | .flat _ => isSpecial scheme = false

/-- The path fits the scheme. -/
def Fits (u : Url) : Prop := u.path.Fits u.scheme

/-- The path is a list of segments. -/
def HasSegments (u : Url) : Prop := ∃ names, u.path = .segments names

/-- Under a special scheme a path that fits is a list of segments. -/
theorem Fits.hasSegments {u : Url} (h : u.Fits) (hspecial : isSpecial u.scheme = true) :
    u.HasSegments := by
  cases hpath : u.path with
  | segments names => exact ⟨names, hpath⟩
  | flat text =>
      rw [Fits, hpath] at h
      exact absurd (hspecial.symm.trans h) (by decide)

/-! ## Readers -/

/-- The segments of a file's trail do not begin with an empty one, unless that is all. -/
theorem Trail.names_file (t : Trail) :
    t.names "file" = [""] ∨ (t.names "file").head? ≠ some "" := by
  rw [Trail.names, if_pos (by rfl)]
  have hhead := List.head?_dropWhile_not String.isEmpty t.behind.reverse
  cases hnames : t.behind.reverse.dropWhile String.isEmpty with
  | nil => exact Or.inl rfl
  | cons name names =>
      rw [hnames] at hhead
      refine Or.inr fun hempty => ?_
      rw [show name = "" from Option.some.inj hempty] at hhead
      exact nomatch hhead

/-- A segment that is left is taken away, and none is added. -/
theorem Trail.leave_subset (t : Trail) : t.leave.behind ⊆ t.behind := by
  rw [Trail.leave]
  split
  · exact List.Subset.refl _
  · rename_i last rest hbehind
    refine iteInduction (motive := fun left : Trail => left.behind ⊆ t.behind)
      (fun _ => List.Subset.refl _) (fun _ => ?_)
    rw [hbehind]
    exact List.subset_cons_self last rest

/-- A path with one segment more is some of its segments, or they are a trail on which one more
    part is read. -/
theorem Path.push_cases (scheme : String) (names : List String) (text : String) :
    ∃ kept ⊆ names, Path.push scheme names text = kept ∨
      Path.push scheme names text
        = (Trail.read scheme (if isSpecial scheme then Reserved.specialSegment else Reserved.segment)
            true text.toList { behind := kept.reverse }).names scheme := by
  have hkept : (if names.length > 1 && names.getLast? == some "" then names.dropLast else names)
      ⊆ names :=
    iteInduction (motive := (· ⊆ names)) (fun _ => List.dropLast_subset names)
      (fun _ => List.Subset.refl names)
  rw [Path.push]
  dsimp only
  generalize (if names.length > 1 && names.getLast? == some "" then names.dropLast else names)
    = kept at hkept ⊢
  split
  · exact ⟨kept, hkept, Or.inl rfl⟩
  · refine ⟨if kept == [""] then [] else kept, ?_, Or.inr rfl⟩
    exact iteInduction (motive := (· ⊆ names)) (fun _ => List.nil_subset names) (fun _ => hkept)

/-- An address with a path read from a text fits. -/
theorem fits_withPath (u : Url) (done : List String) (cs : List Char) :
    (u.withPath done cs).Fits := by
  intro hfile
  have hscheme : u.scheme = "file" := hfile
  show (Path.scan u.scheme done cs).1.names u.scheme = [""] ∨
    ((Path.scan u.scheme done cs).1.names u.scheme).head? ≠ some ""
  rw [hscheme]
  exact Trail.names_file _

/-- An address with a slash at its end fits if it did. -/
theorem fits_withSlash {u : Url} (h : u.Fits) : u.withSlash.Fits := by
  rw [withSlash]
  rw [Fits] at h
  split
  · rename_i names hpath
    rw [hpath] at h
    show Path.Fits u.scheme (.segments (Path.withSlash u.scheme names))
    intro hfile
    rw [Path.withSlash]
    split
    · exact h hfile
    · rw [hfile, if_pos (by rfl)]
      exact Trail.names_file _
  · rename_i text hpath
    rw [hpath] at h
    refine iteInduction (fun _ => ?_) (fun _ => ?_)
    · rw [Fits, hpath]
      exact h
    · exact h

/-- An address without a path fits. -/
theorem fits_bare (scheme : String) : (bare scheme).Fits := fun _ => Or.inr (by simp)

/-- **Every reader gives addresses whose paths fit.** -/
theorem fits_closed : Closed Fits where
  scheme _ := fits_bare _
  ofBase _ := fits_bare _
  authority _ _ := fits_bare _
  flat _ plain _ := plain
  localFile := fun _ => Or.inl rfl
  host h _ := h
  path _ _ _ := fits_withPath _ _ _
  ending h _ := h
  fragment h _ _ := h
  withoutFragment h := h
  withSlash h := fits_withSlash h

theorem fits_read {s : String} {u : Url} (h : read s = .ok u) : u.Fits := fits_closed.read h

end Url

/-- The path of a service's collection fits. -/
theorem Remote.fits_collection {s : Settings} {r : Remote} (h : ofSettings s = .ok r) :
    r.collection.Fits := Url.fits_closed.collection h

/-! ## An address to show things by -/

/-- The address with a path at the loop-back host. -/
def Url.loopback (path : Url.Path) : Url := ⟨"http", some { host := "[::1]" }, path, none, none⟩

/-- The collection at the loop-back host, by settings that are standard otherwise. -/
def Remote.loopback : Remote where
  collection := .loopback (.segments ["rest", ""])
  headers := [("content-type", "application/json"), ("accept", "application/json"),
    ("user-agent", "message-inbox/0.1.0")]
  timeout := some (.ofSecs 30)

end Postbox
