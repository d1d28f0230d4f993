import Mathlib.Data.List.Nodup
import Postbox.Toml.Reader

/-! # Tables — a document has each key once

    A document grows by lines and headers, and each of them changes the value of one key: a key
    that is there keeps its place, and one that is not comes last (`Distinct.set`).  So what is
    read has each key once (`read_distinct`), and the value of a key is the one that stands with
    it, wherever that is (`Entries.get_eq_some`). -/

namespace Postbox.Toml

variable {es es' : Entries} {key : String} {v : Value}

namespace Entries

/-! ## Keys -/

/-- No key stands twice. -/
def Distinct (es : Entries) : Prop := (es.map Prod.fst).Nodup

theorem distinct_nil : Distinct [] := List.nodup_nil

/-- What is found for a key stands with it. -/
theorem mem_of_get (h : es.get? key = some v) : (key, v) ∈ es := by
  obtain ⟨⟨k, w⟩, hfind, rfl⟩ := Option.map_eq_some_iff.mp h
  obtain rfl : k = key := beq_iff_eq.mp 
    (List.find?_some (p := fun e : String × Value => e.1 == key) hfind)
  exact List.mem_of_find?_eq_some hfind

/-- A key without a value does not stand there. -/
theorem get_eq_none : es.get? key = none ↔ ∀ v, (key, v) ∉ es := by
  rw [get?, Option.map_eq_none_iff, List.find?_eq_none]
  constructor
  · exact fun h v hmem => h (key, v) hmem (beq_self_eq_true key)
  · rintro h ⟨k, v⟩ hmem hk
    obtain rfl : k = key := beq_iff_eq.mp hk
    exact h v hmem

/-- **The value of a key** is the one that stands with it, wherever that is. -/
theorem get_eq_some (h : es.Distinct) : es.get? key = some v ↔ (key, v) ∈ es := by
  refine ⟨mem_of_get, fun hmem => ?_⟩
  cases hget : es.get? key with
  | none => exact absurd hmem (get_eq_none.mp hget v)
  | some w =>
      have heq : (key, w) = (key, v) := List.inj_on_of_nodup_map h (mem_of_get hget) hmem rfl
      rw [(Prod.mk.inj heq).2]

/-! ## Growing -/

/-- A value that is set changes no key, or adds one behind all others. -/
theorem Distinct.set (h : es.Distinct) (key : String) (v : Value) : (es.set key v).Distinct := by
  rw [Entries.set]
  split
  · have hkeys : (es.map fun e => if e.1 == key then (key, v) else e).map Prod.fst
        = es.map Prod.fst := by
      rw [List.map_map]
      refine List.map_congr_left fun e _ => ?_
      by_cases hkey : e.1 == key
      · exact (congrArg Prod.fst (if_pos hkey)).trans (beq_iff_eq.mp hkey).symm
      · exact congrArg Prod.fst (if_neg hkey)
    rw [Distinct, hkeys]
    exact h
  · rename_i hnone
    rw [Option.not_isSome_iff_eq_none, get_eq_none] at hnone
    rw [Distinct, List.map_append]
    refine h.append (List.nodup_singleton key) (List.disjoint_singleton.mpr fun hmem => ?_)
    obtain ⟨⟨k, w⟩, hmem, hk⟩ := List.mem_map.mp hmem
    have hk : k = key := hk
    exact hnone w (hk ▸ hmem)

/-- A table that is changed in a place below sets one key. -/
theorem Distinct.update {byKey : Bool} {change : Origin → Entries → Option Entries}
    (hchange : ∀ origin es', change origin es = some es' → es'.Distinct) (hd : es.Distinct)
    {path : List String} {origin : Origin}
    (h : Toml.update byKey change path origin es = some es') : es'.Distinct := by
  cases path with
  | nil => exact hchange origin es' h
  | cons key path =>
      rw [Toml.update] at h
      split at h
      · obtain ⟨sub, -, rfl⟩ := Option.map_eq_some_iff.mp h
        exact hd.set key _
      · split at h
        · exact nomatch h
        · obtain ⟨sub, -, rfl⟩ := Option.map_eq_some_iff.mp h
          exact hd.set key _
      · obtain ⟨-, h⟩ := Option.ite_none_left_eq_some.mp h
        obtain ⟨sub, -, rfl⟩ := Option.map_eq_some_iff.mp h
        exact hd.set key _
      · exact nomatch h

/-- A line with a value. -/
theorem Distinct.insert {current path : List String} (hd : es.Distinct)
    (h : insert? current path key v es = some es') : es'.Distinct := by
  refine hd.update (fun origin es' hbelow => hd.update (fun origin es' hset => ?_) hbelow) h
  obtain ⟨-, hset⟩ := Option.ite_none_left_eq_some.mp hset
  rw [← Option.some.inj hset]
  exact hd.set key v

/-- A header of a table. -/
theorem Distinct.header {path : List String} (hd : es.Distinct)
    (h : header? path key es = some es') : es'.Distinct := by
  refine hd.update (fun origin es' hset => ?_) h
  split at hset
  · exact Option.some.inj hset ▸ hd.set key _
  · exact Option.some.inj hset ▸ hd.set key _
  · exact nomatch hset

/-- A header of one of several tables. -/
theorem Distinct.headerOfMany {path : List String} (hd : es.Distinct)
    (h : headerOfMany? path key es = some es') : es'.Distinct := by
  refine hd.update (fun origin es' hset => ?_) h
  split at hset
  · exact Option.some.inj hset ▸ hd.set key _
  · exact Option.some.inj hset ▸ hd.set key _
  · exact nomatch hset

end Entries

/-! ## Documents -/

/-- Lines add to a document and repeat no key. -/
theorem lines_distinct {current : List String} {root : Entries} (hd : root.Distinct)
    {cs : List Char} (h : lines? current root cs = some es) : es.Distinct := by
  induction hlength : cs.length using Nat.strongRecOn generalizing current root cs with
  | ind n ih =>
      -- behind a line the text is shorter, and the document is the one that the line has grown
      have later {current : List String} {grown : Option Entries} {left : List Char}
          (hgrown : ∀ root', grown = some root' → root'.Distinct)
          (h : (if left.length < cs.length then
            grown.bind fun root' => lines? current root' left else none) = some es) :
          es.Distinct := by
        obtain ⟨hshorter, h⟩ := Option.ite_none_right_eq_some.mp h
        obtain ⟨root', hroot, h⟩ := Option.bind_eq_some_iff.mp h
        exact ih left.length (hlength ▸ hshorter) (hgrown root' hroot) h rfl
      have passed {left : Option (List Char)} (h : (left.bind fun left =>
          if left.length < cs.length then
            (some root).bind fun root' => lines? current root' left else none) = some es) :
          es.Distinct := by
        obtain ⟨left, -, h⟩ := Option.bind_eq_some_iff.mp h
        refine later (fun root' hroot => ?_) h
        rw [← Option.some.inj hroot]
        exact hd
      rw [lines?] at h
      dsimp only at h
      split at h
      · rw [← Option.some.inj h]
        exact hd
      · obtain ⟨⟨⟨path, key⟩, rest⟩, -, h⟩ := Option.bind_eq_some_iff.mp h
        obtain ⟨rest', -, h⟩ := Option.bind_eq_some_iff.mp h
        obtain ⟨rest'', -, h⟩ := Option.bind_eq_some_iff.mp h
        obtain ⟨left, -, h⟩ := Option.bind_eq_some_iff.mp h
        exact later (fun root' hroot => hd.headerOfMany hroot) h
      · obtain ⟨⟨⟨path, key⟩, rest⟩, -, h⟩ := Option.bind_eq_some_iff.mp h
        obtain ⟨rest', -, h⟩ := Option.bind_eq_some_iff.mp h
        obtain ⟨left, -, h⟩ := Option.bind_eq_some_iff.mp h
        exact later (fun root' hroot => hd.header hroot) h
      · split at h
        · exact passed h
        · exact passed h
        · exact passed h
        · obtain ⟨⟨⟨path, key⟩, rest⟩, -, h⟩ := Option.bind_eq_some_iff.mp h
          obtain ⟨rest', -, h⟩ := Option.bind_eq_some_iff.mp h
          obtain ⟨⟨v, rest''⟩, -, h⟩ := Option.bind_eq_some_iff.mp h
          obtain ⟨left, -, h⟩ := Option.bind_eq_some_iff.mp h
          exact later (fun root' hroot => hd.insert hroot) h

/-- **A document that is read has each key once.** -/
theorem read_distinct {s : String} (h : read? s = some es) : es.Distinct :=
  lines_distinct Entries.distinct_nil h

end Postbox.Toml
