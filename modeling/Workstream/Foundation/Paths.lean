import Workstream.Foundation.Utf8
import Mathlib.Data.List.Basic

/-! # Slash-separated paths -/

namespace Foundation

def splitPath (path : String) : List String := (path.toList.splitOn '/').map String.ofList

def joinPath (parts : List String) : String :=
  String.ofList (['/'].intercalate (parts.map String.toList))

def ancestors (parts : List String) : List String :=
  (List.range' 1 (parts.length - 1)).map (fun depth => joinPath (parts.take depth))

theorem map_toList_map_ofList (parts : List (List Char)) :
    (parts.map String.ofList).map String.toList = parts := by
  rw [List.map_map]
  exact List.map_id'' (fun cs => String.toList_ofList) parts

theorem map_ofList_map_toList (parts : List String) :
    (parts.map String.toList).map String.ofList = parts := by
  rw [List.map_map]
  exact List.map_id'' (fun s => String.ofList_toList) parts

@[simp] theorem joinPath_splitPath (path : String) : joinPath (splitPath path) = path := by
  rw [joinPath, splitPath, map_toList_map_ofList, List.intercalate_splitOn, String.ofList_toList]

theorem splitPath_ne_nil (path : String) : splitPath path ≠ [] := by
  rw [splitPath, ne_eq, List.map_eq_nil_iff]
  exact List.splitOn_ne_nil _ _

theorem splitPath_joinPath {parts : List String} (hne : parts ≠ [])
    (h : ∀ part ∈ parts, '/' ∉ part.toList) : splitPath (joinPath parts) = parts := by
  rw [splitPath, joinPath, String.toList_ofList, List.splitOn_intercalate, map_ofList_map_toList]
  · intro cs hcs
    obtain ⟨part, hpart, rfl⟩ := List.mem_map.mp hcs
    exact h part hpart
  · simpa using hne

theorem notMem_of_mem_splitOn {α : Type} [DecidableEq α] {x : α} {word : List α} (xs : List α)
    (h : word ∈ xs.splitOn x) : x ∉ word := by
  induction xs generalizing word with
  | nil =>
    obtain rfl : word = [] := by simpa using h
    exact List.not_mem_nil
  | cons y xs ih =>
    rw [List.splitOn, List.splitOnP_cons_eq_if_modifyHead] at h
    split at h
    · rcases List.mem_cons.mp h with rfl | hmem
      · exact List.not_mem_nil
      · exact ih hmem
    · rename_i hy
      have hxy : y ≠ x := by simpa using hy
      cases hs : xs.splitOn x with
      | nil => exact absurd hs (List.splitOn_ne_nil _ _)
      | cons first rest =>
        rw [← List.splitOn, hs, List.modifyHead_cons] at h
        rcases List.mem_cons.mp h with rfl | hmem
        · rw [List.mem_cons, not_or]
          exact ⟨hxy.symm, ih (hs ▸ List.mem_cons_self)⟩
        · exact ih (hs ▸ List.mem_cons_of_mem _ hmem)

theorem slash_notMem_of_mem_splitPath {path part : String} (h : part ∈ splitPath path) :
    '/' ∉ part.toList := by
  obtain ⟨cs, hcs, rfl⟩ := List.mem_map.mp h
  rw [String.toList_ofList]
  exact notMem_of_mem_splitOn _ hcs

theorem mem_ancestors {parts : List String} {path : String} :
    path ∈ ancestors parts ↔
      ∃ depth, 1 ≤ depth ∧ depth < parts.length ∧ path = joinPath (parts.take depth) := by
  simp only [ancestors, List.mem_map, List.mem_range'_1]
  constructor
  · rintro ⟨depth, ⟨h1, h2⟩, rfl⟩
    exact ⟨depth, h1, by omega, rfl⟩
  · rintro ⟨depth, h1, h2, rfl⟩
    exact ⟨depth, ⟨h1, by omega⟩, rfl⟩

theorem splitPath_take {path : String} {depth : ℕ} (h : 1 ≤ depth) :
    splitPath (joinPath ((splitPath path).take depth)) = (splitPath path).take depth := by
  refine splitPath_joinPath ?_ (fun part hpart => ?_)
  · rw [ne_eq, List.take_eq_nil_iff, not_or]
    exact ⟨by omega, splitPath_ne_nil path⟩
  · exact slash_notMem_of_mem_splitPath (List.mem_of_mem_take hpart)

theorem intercalate_take_prefix (sep : List Char) (words : List (List Char)) (n : ℕ) :
    sep.intercalate (words.take n) <+: sep.intercalate words := by
  induction words generalizing n with
  | nil => exact ⟨[], by rw [List.take_nil, List.append_nil]⟩
  | cons word words ih =>
    cases n with
    | zero => exact List.nil_prefix
    | succ n =>
      cases words with
      | nil => exact ⟨[], by rw [List.take_succ_cons, List.take_nil, List.append_nil]⟩
      | cons next words =>
        cases n with
        | zero =>
          simp [List.intercalate]
        | succ n =>
          rw [List.take_succ_cons, List.take_succ_cons, List.intercalate_cons_cons,
            List.intercalate_cons_cons, List.prefix_append_right_inj]
          exact ih (n + 1)

theorem toList_take_prefix (path : String) (depth : ℕ) :
    (joinPath ((splitPath path).take depth)).toList <+: path.toList := by
  have h := intercalate_take_prefix ['/'] ((splitPath path).map String.toList) depth
  rw [← List.map_take] at h
  rw [joinPath, String.toList_ofList]
  have hpath := congrArg String.toList (joinPath_splitPath path)
  rw [joinPath, String.toList_ofList] at hpath
  exact hpath ▸ h

theorem length_utf8_le_of_start {s t : String} (h : s.toList <+: t.toList) :
    (utf8 s).length ≤ (utf8 t).length := by
  obtain ⟨rest, hrest⟩ := h
  rw [utf8, utf8, ← hrest, List.flatMap_append, List.length_append]
  exact Nat.le_add_right _ _

/-- Unicode as the paths use it: the normalization form C and case folding. The form composes and
decomposes no character of the path syntax: slashes stay where they are, and a backslash, a colon,
a control character, and a blank or a full stop at the end only come from themselves. -/
structure Unicode where
  nfc : String → String
  casefold : String → String
  nfc_nfc : ∀ s, nfc (nfc s) = nfc s
  splitPath_nfc : ∀ s, splitPath (nfc s) = (splitPath s).map nfc
  nfc_ne_empty : ∀ s, s ≠ "" → nfc s ≠ ""
  mem_nfc : ∀ (s : String) (c : Char), c = '\\' ∨ c = ':' ∨ c.toNat < 32 ∨ c.toNat = 127 →
    c ∈ (nfc s).toList → c ∈ s.toList
  getLast_nfc : ∀ (s : String) (c : Char), c = ' ' ∨ c = '.' →
    (nfc s).toList.getLast? = some c → s.toList.getLast? = some c

def Unicode.fold (u : Unicode) (path : String) : String := u.casefold (u.nfc path)

theorem Unicode.nfc_take (u : Unicode) {path : String} (h : u.nfc path = path) {depth : ℕ}
    (hdepth : 1 ≤ depth) :
    u.nfc (joinPath ((splitPath path).take depth)) = joinPath ((splitPath path).take depth) := by
  have hparts : (splitPath path).map u.nfc = splitPath path := by
    rw [← u.splitPath_nfc, h]
  rw [← joinPath_splitPath (u.nfc _), u.splitPath_nfc, splitPath_take hdepth, List.map_take, hparts]

end Foundation
