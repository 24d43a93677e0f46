import Workstream.Foundation.Checks
import Workstream.Foundation.JsonSize
import Mathlib.Data.List.Infix

/-!
# The size of an outbox payload

`validate_outbox_payload` bounds the canonical text of a payload without writing it.
-/

namespace Workstream.Outbox.Payloads
open Foundation Json

def secretKeys : List String :=
  ["access_token", "artifact_bytes", "authorization", "bearer_token", "cookie", "credentials", "id_token",
    "jwks", "password", "raw_callback", "raw_provider_response", "refresh_token", "request_body",
    "response_body", "secret", "signed_url"]

def secretKeyParts : List String := ["credential", "credentials", "password", "secret", "token"]

def compactSecretLexemes : List String :=
  ["credential", "jwt", "passphrase", "password", "secret", "token"]

def compactKeyLexemes : List String :=
  ["accesskey", "apikey", "encryptionkey", "keymaterial", "privatekey", "providerkey", "secretkey",
    "signingkey"]

def keyQualifiers : List String :=
  ["access", "api", "encryption", "private", "provider", "secret", "signing"]

def keyDescriptors : List String := ["data", "material", "payload", "value"]

def maxDepth : ℕ := 16
def maxMembers : ℕ := 1024
def maxNodes : ℕ := 4096
def maxKeyBytes : ℕ := 128
def maxStringBytes : ℕ := 16384
def maxEncodingBudget : ℕ := 262144
def maxIntegerMagnitude : ℕ := 10 ^ 38 - 1

section Budget

variable (casefold : String → String)

def keyCompound (parts : List (List Char)) : Bool :=
  (List.range parts.length).any fun index =>
    parts[index]? = some "key".toList ∧
      ((0 < index ∧ ∃ word ∈ keyQualifiers, parts[index - 1]? = some word.toList) ∨
        ∃ word ∈ keyDescriptors, parts[index + 1]? = some word.toList)

def isSensitiveKey (value : String) : Bool :=
  let normalized := (casefold value).toList.map fun c => if c = '-' then '_' else c
  let parts := normalized.splitOn '_'
  secretKeys.any (·.toList = normalized) || secretKeyParts.any (·.toList ∈ parts) ||
    normalized = "key".toList || "_key".toList <:+ normalized || keyCompound parts ||
    compactSecretLexemes.any (·.toList <:+: normalized) ||
    compactKeyLexemes.any (·.toList <:+: normalized)

/-- Pattern `^[a-z][a-z0-9_]{0,127}$` -/
def isKey (key : String) : Bool :=
  match key.toList with
  | [] => false
  | c :: rest => c.isLower ∧ rest.length ≤ 127 ∧ rest.all fun d => d.isLower || d.isDigit || d == '_'

def countNode (nodes : ℕ) : Except String ℕ := do
  require (nodes + 1 ≤ maxNodes) "payload_nodes"
  pure (nodes + 1)

mutual
/-- `_encoding_budget`: the budget, and the nodes counted so far. -/
def encodingBudget : Json → ℕ → ℕ → Except String (ℕ × ℕ)
  | .obj fields, depth, nodes => do
    let nodes ← countNode nodes
    require (depth ≤ maxDepth ∧ fields.length ≤ maxMembers) "payload_container"
    let (budget, nodes) ← membersBudget fields (depth + 1) nodes
    pure (2 + (fields.length - 1) + budget, nodes)
  | .arr items, depth, nodes => do
    let nodes ← countNode nodes
    require (depth ≤ maxDepth ∧ items.length ≤ maxMembers) "payload_container"
    let (budget, nodes) ← itemsBudget items (depth + 1) nodes
    pure (2 + (items.length - 1) + budget, nodes)
  | .str s, _, nodes => do
    let nodes ← countNode nodes
    require ((utf8 s).length ≤ maxStringBytes) "payload_string"
    pure (6 * (utf8 s).length + 2, nodes)
  | .null, _, nodes => do
    let nodes ← countNode nodes
    pure (4, nodes)
  | .bool _, _, nodes => do
    let nodes ← countNode nodes
    pure (5, nodes)
  | .num n, _, nodes => do
    let nodes ← countNode nodes
    require (n.natAbs ≤ maxIntegerMagnitude) "payload_integer"
    pure ((renderInt n).length, nodes)

def membersBudget : List (String × Json) → ℕ → ℕ → Except String (ℕ × ℕ)
  | [], _, nodes => pure (0, nodes)
  | (key, item) :: rest, depth, nodes => do
    require (isSensitiveKey casefold key = false) "payload_sensitive"
    require ((utf8 key).length ≤ maxKeyBytes ∧ isKey key = true) "payload_key"
    let (item, nodes) ← encodingBudget item depth nodes
    let (budget, nodes) ← membersBudget rest depth nodes
    pure (6 * (utf8 key).length + 3 + item + budget, nodes)

def itemsBudget : List Json → ℕ → ℕ → Except String (ℕ × ℕ)
  | [], _, nodes => pure (0, nodes)
  | item :: rest, depth, nodes => do
    let (item, nodes) ← encodingBudget item depth nodes
    let (budget, nodes) ← itemsBudget rest depth nodes
    pure (item + budget, nodes)
end

/-- An object within the limits on depth, nodes, keys, values and size. -/
def validateOutboxPayload (value : Json) : Except String Json := do
  let .obj _ := value | .error "payload_object"
  let (budget, _) ← encodingBudget casefold value 1 0
  require (budget ≤ maxEncodingBudget) "payload_size"
  pure value

end Budget

/-- The order in which `jsonb` keeps the members of an object: shorter keys first. -/
def storeOrder (members : List (String × List Char)) : List (String × List Char) :=
  members.insertionSort fun a b =>
    (utf8 a.1).length < (utf8 b.1).length ∨ (utf8 a.1).length = (utf8 b.1).length ∧ a.1 ≤ b.1

/-- The text of a `jsonb` value; its strings are escaped as in the canonical text. -/
def jsonbText : Json → List Char :=
  cata render (fun items => '[' :: [',', ' '].intercalate items ++ [']'])
    (fun members => '{' :: [',', ' '].intercalate
      ((storeOrder members).map fun m => renderString m.1 ++ ':' :: ' ' :: m.2) ++ ['}'])

/-- The table's check constraint `payload_shape`. -/
def payloadShape (payload : Json) : Bool :=
  match payload with
  | .obj _ => byteCount (jsonbText payload) ≤ 262144
  | _ => false

theorem byteCount_jsonbText (v : Json) : byteCount (jsonbText v) = treeSize 2 v := by
  refine @byteCount_writer jsonbText [',', ' '] [':', ' '] 2 (by decide +kernel) (by decide +kernel) ?_
    (fun items => by rw [jsonbText, cata_arr]) (fun fields => ?_) v
  · intro v harr hobj
    cases v <;> first | rfl | exact absurd rfl (harr _) | exact absurd rfl (hobj _)
  · let members : List (String × List Char) := fields.map fun p => (p.1, jsonbText p.2)
    refine ⟨storeOrder members, List.perm_insertionSort _ members, ?_⟩
    simp only [jsonbText, cata_obj, List.append_assoc, List.cons_append, List.nil_append, members]

variable {casefold : String → String} {nodes nodes' depth : ℕ} {answer : ℕ × ℕ}

/-- The separators between the elements of arrays. -/
def arrayGaps : Json → ℕ :=
  cata (fun _ => 0) (fun gaps => gaps.length - 1 + gaps.sum) (fun members => (members.map Prod.snd).sum)

theorem arrayGaps_arr (items : List Json) :
    arrayGaps (.arr items) = items.length - 1 + (items.map arrayGaps).sum := by
  rw [arrayGaps, cata_arr, List.length_map]

theorem arrayGaps_obj (fields : List (String × Json)) :
    arrayGaps (.obj fields) = (fields.map fun p => arrayGaps p.2).sum := by
  rw [arrayGaps, cata_obj, List.map_map]
  rfl

structure Covered (v : Json) (nodes : ℕ) (answer : ℕ × ℕ) : Prop where
  compact : treeSize 1 v ≤ answer.1
  spaced : treeSize 2 v ≤ answer.1 + arrayGaps v
  counted : nodes + arrayGaps v < answer.2
  limited : answer.2 ≤ maxNodes

theorem countNode_eq_ok (h : countNode nodes = .ok nodes') : nodes' = nodes + 1 ∧ nodes' ≤ maxNodes := by
  simp only [countNode, eq_ok] at h
  obtain ⟨-, hle, rfl⟩ := h
  exact ⟨rfl, hle⟩

theorem Covered.leaf {v : Json} {budget : ℕ} (hgap : treeSize 2 v = treeSize 1 v)
    (hsize : treeSize 1 v ≤ budget) (hnone : arrayGaps v = 0) (hcount : countNode nodes = .ok nodes') :
    Covered v nodes (budget, nodes') := by
  obtain ⟨rfl, hlim⟩ := countNode_eq_ok hcount
  refine ⟨hsize, ?_, ?_, hlim⟩
  · rw [hgap]
    omega
  · rw [hnone]
    exact Nat.lt_succ_self nodes

theorem escape_of_keyChar {c : Char} (h : (c.isLower || c.isDigit || c == '_') = true) :
    escape c = [c] ∧ c.toNat ≤ 127 := by
  have hrange : 97 ≤ c.toNat ∧ c.toNat ≤ 122 ∨ 48 ≤ c.toNat ∧ c.toNat ≤ 57 ∨ c.toNat = 95 := by
    rw [Bool.or_eq_true, Bool.or_eq_true, beq_iff_eq] at h
    rcases h with (hlower | hdigit) | rfl
    · exact .inl ((Bool.and_eq_true_iff.mp hlower).imp of_decide_eq_true of_decide_eq_true)
    · exact .inr (.inl ((Bool.and_eq_true_iff.mp hdigit).imp of_decide_eq_true of_decide_eq_true))
    · exact .inr (.inr rfl)
  have hne : ∀ d : Char, d.toNat < 48 ∨ d.toNat = 92 → c ≠ d := by
    rintro d hd rfl
    omega
  refine ⟨?_, by omega⟩
  simp only [escape, hne '"' (by decide), hne '\\' (by decide), hne '\n' (by decide), hne '\r' (by decide),
    hne '\t' (by decide), hne '\x0c' (by decide), hne '\x08' (by decide), if_false]
  rw [if_neg (by omega)]

theorem byteCount_key {key : String} (h : isKey key = true) :
    byteCount (renderString key) = (utf8 key).length + 2 ∧ 0 < (utf8 key).length := by
  have hchars : ∀ c ∈ key.toList, (c.isLower || c.isDigit || c == '_') = true := by
    intro c hc
    unfold isKey at h
    split at h
    · rename_i hempty
      rw [hempty] at hc
      exact nomatch hc
    · rename_i first rest hkey
      rw [hkey] at hc
      simp only [decide_eq_true_eq] at h
      rcases List.mem_cons.mp hc with rfl | hrest
      · rw [h.1]
        rfl
      · exact List.all_eq_true.mp h.2.2 c hrest
  have hplain : key.toList.flatMap escape = key.toList := by
    rw [List.flatMap_congr fun c hc => (escape_of_keyChar (hchars c hc)).1]
    exact List.flatMap_singleton' _
  have hquote : (utf8Char '"').length = 1 := by decide +kernel
  constructor
  · rw [renderString, hplain, List.cons_append, byteCount_cons, byteCount_append, byteCount_cons,
      byteCount_nil, hquote, length_utf8]
    omega
  · rw [length_utf8]
    unfold isKey at h
    split at h
    · exact nomatch h
    · rename_i first rest hkey
      rw [hkey, byteCount_cons]
      exact Nat.add_pos_left (length_utf8Char_pos first) _

/-- What holds of every element holds of the elements together; each of them counts itself. -/
theorem itemsBudget_eq_ok {items : List Json} (hitems : ∀ v ∈ items, ∀ depth nodes answer,
      encodingBudget casefold v depth nodes = .ok answer → Covered v nodes answer)
    (hnodes : nodes ≤ maxNodes) (h : itemsBudget casefold items depth nodes = .ok answer) :
    (items.map (treeSize 1)).sum ≤ answer.1 ∧
      (items.map (treeSize 2)).sum ≤ answer.1 + (items.map arrayGaps).sum ∧
      nodes + items.length + (items.map arrayGaps).sum ≤ answer.2 ∧ answer.2 ≤ maxNodes := by
  induction items generalizing nodes answer with
  | nil =>
    obtain rfl := pure_eq_ok.mp h
    exact ⟨Nat.le_refl _, Nat.le_refl _, Nat.le_refl _, hnodes⟩
  | cons v vs ih =>
    simp only [itemsBudget, eq_ok] at h
    obtain ⟨first, hfirst, rest, hrest, rfl⟩ := h
    obtain ⟨hcompact, hspaced, hcounted, hlim⟩ := hitems v List.mem_cons_self _ _ _ hfirst
    obtain ⟨hcompact', hspaced', hcounted', hlim'⟩ :=
      ih (fun w hw => hitems w (List.mem_cons_of_mem v hw)) hlim hrest
    simp only [List.map_cons, List.sum_cons, List.length_cons]
    exact ⟨by omega, by omega, by omega, hlim'⟩

/-- The same for the members of an object, where a key pays for its separator and its colon. -/
theorem membersBudget_eq_ok {fields : List (String × Json)}
    (hfields : ∀ p ∈ fields, ∀ depth nodes answer,
      encodingBudget casefold p.2 depth nodes = .ok answer → Covered p.2 nodes answer)
    (hnodes : nodes ≤ maxNodes) (h : membersBudget casefold fields depth nodes = .ok answer) :
    (fields.map fun p => byteCount (renderString p.1) + 1 + treeSize 1 p.2).sum ≤ answer.1 ∧
      (fields.map fun p => byteCount (renderString p.1) + 2 + treeSize 2 p.2).sum + fields.length ≤
        answer.1 + (fields.map fun p => arrayGaps p.2).sum ∧
      nodes + (fields.map fun p => arrayGaps p.2).sum ≤ answer.2 ∧ answer.2 ≤ maxNodes := by
  induction fields generalizing nodes answer with
  | nil =>
    obtain rfl := pure_eq_ok.mp h
    exact ⟨Nat.le_refl _, Nat.le_refl _, Nat.le_refl _, hnodes⟩
  | cons p rest ih =>
    obtain ⟨key, v⟩ := p
    simp only [membersBudget, eq_ok] at h
    obtain ⟨-, -, -, ⟨-, hkey⟩, first, hfirst, others, hothers, rfl⟩ := h
    have hcov : Covered v nodes first := hfields (key, v) List.mem_cons_self _ _ _ hfirst
    obtain ⟨hcompact, hspaced, hcounted, hlim⟩ := hcov
    obtain ⟨hcompact', hspaced', hcounted', hlim'⟩ :=
      ih (fun q hq => hfields q (List.mem_cons_of_mem _ hq)) hlim hothers
    obtain ⟨hquoted, hpos⟩ := byteCount_key hkey
    simp only [List.map_cons, List.sum_cons, List.length_cons, hquoted]
    exact ⟨by omega, by omega, by omega, hlim'⟩

theorem encodingBudget_covered (v : Json) (h : encodingBudget casefold v depth nodes = .ok answer) :
    Covered v nodes answer := by
  induction v using Json.induction generalizing depth nodes answer with
  | null =>
    simp only [encodingBudget, eq_ok] at h
    obtain ⟨nodes', hcount, rfl⟩ := h
    exact Covered.leaf rfl (by decide +kernel) rfl hcount
  | bool b =>
    simp only [encodingBudget, eq_ok] at h
    obtain ⟨nodes', hcount, rfl⟩ := h
    exact Covered.leaf rfl (by cases b <;> decide +kernel) rfl hcount
  | num n =>
    simp only [encodingBudget, eq_ok] at h
    obtain ⟨nodes', hcount, -, -, rfl⟩ := h
    exact Covered.leaf rfl (Nat.le_of_eq (byteCount_renderInt n)) rfl hcount
  | str s =>
    simp only [encodingBudget, eq_ok] at h
    obtain ⟨nodes', hcount, -, -, rfl⟩ := h
    exact Covered.leaf rfl (byteCount_renderString_le s) rfl hcount
  | arr items ih =>
    simp only [encodingBudget, eq_ok] at h
    obtain ⟨nodes', hcount, -, -, budget, hbud, rfl⟩ := h
    obtain ⟨rfl, hlim⟩ := countNode_eq_ok hcount
    obtain ⟨hcompact, hspaced, hcounted, hlim'⟩ :=
      itemsBudget_eq_ok (fun v hv _ _ _ h => ih v hv h) hlim hbud
    refine ⟨?_, ?_, ?_, hlim'⟩
    · rw [treeSize_arr]
      omega
    · rw [treeSize_arr, arrayGaps_arr]
      omega
    · rw [arrayGaps_arr]
      omega
  | obj fields ih =>
    simp only [encodingBudget, eq_ok] at h
    obtain ⟨nodes', hcount, -, -, budget, hbud, rfl⟩ := h
    obtain ⟨rfl, hlim⟩ := countNode_eq_ok hcount
    obtain ⟨hcompact, hspaced, hcounted, hlim'⟩ :=
      membersBudget_eq_ok (fun p hp _ _ _ h => ih p hp h) hlim hbud
    refine ⟨?_, ?_, ?_, hlim'⟩
    · rw [treeSize_obj]
      omega
    · rw [treeSize_obj, arrayGaps_obj]
      omega
    · rw [arrayGaps_obj]
      omega

/-- Of every accepted value, at any depth and after any number of nodes, the canonical text has at most
as many bytes as the budget says. -/
theorem encodingBudget_conservative (casefold : String → String) (v : Json)
    (depth nodes budget nodes' : ℕ) (h : encodingBudget casefold v depth nodes = .ok (budget, nodes')) :
    (utf8 v.dumps).length ≤ budget := by
  rw [length_utf8_dumps]
  exact (encodingBudget_covered v h).compact

theorem encodingBudget_conservative_pair : (utf8 (Json.arr [.null, .num (-5)]).dumps).length ≤ 9 :=
  encodingBudget_conservative id (.arr [.null, .num (-5)]) 1 0 9 3 (by decide +kernel)

/-- The blanks of the `jsonb` text: one behind every separator and every colon. -/
def blanks : Json → ℕ :=
  cata (fun _ => 0) (fun items => items.length - 1 + items.sum)
    (fun members => members.length - 1 + (members.map fun m => 1 + m.2).sum)

theorem treeSize_two (v : Json) : treeSize 2 v = treeSize 1 v + blanks v := by
  induction v using Json.induction with
  | null | bool | num | str => rfl
  | arr items ih =>
    rw [treeSize_arr, treeSize_arr, blanks, cata_arr, ← blanks, List.map_congr_left ih, List.sum_map_add,
      List.length_map]
    omega
  | obj fields ih =>
    have hsizes : (fields.map fun p => byteCount (renderString p.1) + 2 + treeSize 2 p.2) =
        fields.map fun p => (byteCount (renderString p.1) + 1 + treeSize 1 p.2) + (1 + blanks p.2) := by
      refine List.map_congr_left fun p hp => ?_
      rw [ih p hp]
      omega
    rw [treeSize_obj, treeSize_obj, hsizes, List.sum_map_add, blanks, cata_obj, ← blanks, List.length_map,
      List.map_map]
    simp only [Function.comp_def]
    omega

theorem validateOutboxPayload_eq_ok {fields : List (String × Json)} {accepted : Json} :
    validateOutboxPayload casefold (.obj fields) = .ok accepted ↔ .obj fields = accepted ∧
      ∃ budget nodes, encodingBudget casefold (.obj fields) 1 0 = .ok (budget, nodes) ∧
        budget ≤ maxEncodingBudget := by
  simp only [validateOutboxPayload, eq_ok]
  constructor
  · rintro ⟨⟨budget, nodes⟩, hbud, -, hle, hsame⟩
    exact ⟨hsame, budget, nodes, hbud, hle⟩
  · rintro ⟨hsame, budget, nodes, hbud, hle⟩
    exact ⟨(budget, nodes), hbud, (), hle, hsame⟩

theorem payloadShape_obj (fields : List (String × Json)) :
    payloadShape (.obj fields) = decide (byteCount (jsonbText (.obj fields)) ≤ 262144) := rfl

/-- The text that the table measures is the canonical text and its blanks. It may have one byte more than
the limit of the validator for every separator between elements of arrays, which are fewer than 4096, and
the table admits a payload exactly when canonical text and blanks fit. -/
theorem jsonbText_bounded (casefold : String → String) (v accepted : Json)
    (h : validateOutboxPayload casefold v = .ok accepted) :
    byteCount (jsonbText v) = (utf8 v.dumps).length + blanks v ∧
      byteCount (jsonbText v) ≤ 262144 + arrayGaps v ∧ arrayGaps v < 4096 ∧
      (payloadShape v = true ↔ (utf8 v.dumps).length + blanks v ≤ 262144) ∧
      (arrayGaps v = 0 → payloadShape v = true) := by
  cases v with
  | null | bool | num | str | arr => exact nomatch h
  | obj fields =>
    obtain ⟨-, budget, nodes, hbud, hle⟩ := validateOutboxPayload_eq_ok.mp h
    obtain ⟨-, hspaced, hcounted, hlim⟩ := encodingBudget_covered _ hbud
    simp only [maxEncodingBudget, maxNodes] at hle hlim
    rw [payloadShape_obj, decide_eq_true_iff, byteCount_jsonbText, treeSize_two, length_utf8_dumps]
    rw [treeSize_two] at hspaced
    exact ⟨rfl, by omega, by omega, Iff.rfl, fun hnone => by omega⟩

def listedPayload : Json :=
  .obj [("task_ids", .arr [.num 11, .num 12, .num 13]), ("note", .str "three")]

theorem jsonbText_bounded_listedPayload :
    arrayGaps listedPayload = 2 ∧ byteCount (jsonbText listedPayload) ≤ 262144 + 2 ∧
      payloadShape listedPayload = true := by
  have hgaps : arrayGaps listedPayload = 2 := by decide +kernel
  have haccepted : validateOutboxPayload id listedPayload = .ok listedPayload := by decide +kernel
  obtain ⟨-, hbound, -, hshape, -⟩ := jsonbText_bounded id listedPayload listedPayload haccepted
  exact ⟨hgaps, hgaps ▸ hbound, hshape.mpr (by decide +kernel)⟩

def controls (count : ℕ) : Json := .str (String.ofList (List.replicate count '\x01'))

/-- Three such texts and five numbers, in one array. -/
def crowdedPayload : Json :=
  .obj [("a", .arr [controls 16384, controls 16384, controls 10917, .num 11, .num 1, .num 1, .num 1, .num 1])]

theorem encodingBudget_controls {count : ℕ} (hcount : count ≤ maxStringBytes)
    (hnodes : nodes + 1 ≤ maxNodes) :
    encodingBudget casefold (controls count) depth nodes = .ok (6 * count + 2, nodes + 1) := by
  have hlen : (utf8 (String.ofList (List.replicate count '\x01'))).length = count := by
    rw [length_utf8, String.toList_ofList, byteCount_of_ascii, List.length_replicate]
    intro c hc
    rw [List.eq_of_mem_replicate hc]
    decide
  simp only [controls, encodingBudget, countNode, bind_eq_ok, require_eq_ok, pure_eq_ok, hlen]
  exact ⟨nodes + 1, ⟨(), hnodes, rfl⟩, (), hcount, rfl⟩

theorem treeSize_controls (gap count : ℕ) : treeSize gap (controls count) = 6 * count + 2 := by
  have hescape : escape '\x01' = ['\\', 'u', '0', '0', '0', '1'] := by decide +kernel
  have hsix : byteCount ['\\', 'u', '0', '0', '0', '1'] = 6 := by decide +kernel
  have hbody : byteCount ((List.replicate count '\x01').flatMap escape) = 6 * count := by
    induction count with
    | zero => rfl
    | succ count ih =>
      rw [List.replicate_succ, List.flatMap_cons, byteCount_append, ih, hescape, hsix]
      omega
  have hquote : (utf8Char '"').length = 1 := by decide +kernel
  show byteCount (renderString (String.ofList (List.replicate count '\x01'))) = 6 * count + 2
  rw [renderString, String.toList_ofList, List.cons_append, byteCount_cons, byteCount_append, hbody,
    byteCount_cons, byteCount_nil, hquote]
  omega

theorem itemsBudget_cons {item : Json} {rest : List Json} {first others : ℕ × ℕ}
    (hfirst : encodingBudget casefold item depth nodes = .ok first)
    (hrest : itemsBudget casefold rest depth first.2 = .ok others) :
    itemsBudget casefold (item :: rest) depth nodes = .ok (first.1 + others.1, others.2) := by
  simp only [itemsBudget, bind_eq_ok, pure_eq_ok]
  exact ⟨first, hfirst, others, hrest, rfl⟩

theorem crowdedPayload_budget : encodingBudget id crowdedPayload 1 0 = .ok (262142, 10) := by
  have hbig : ∀ nodes, nodes + 1 ≤ maxNodes →
      encodingBudget id (controls 16384) 3 nodes = .ok (98306, nodes + 1) :=
    fun _ => encodingBudget_controls (by decide)
  have hlast : encodingBudget id (controls 10917) 3 4 = .ok (65504, 5) :=
    encodingBudget_controls (by decide) (by decide)
  have hnumbers : itemsBudget id [.num 11, .num 1, .num 1, .num 1, .num 1] 3 5 = .ok (6, 10) := by
    decide +kernel
  have hitems := itemsBudget_cons (hbig 2 (by decide))
    (itemsBudget_cons (hbig 3 (by decide)) (itemsBudget_cons hlast hnumbers))
  simp only [crowdedPayload, encodingBudget, membersBudget, countNode, bind_eq_ok, require_eq_ok,
    pure_eq_ok]
  refine ⟨1, ⟨(), by decide, rfl⟩, (), by decide, (262140, 10), ?_, rfl⟩
  refine ⟨(), by decide +kernel, (), by decide +kernel, (262131, 10), ?_, (0, 10), rfl, rfl⟩
  exact ⟨2, ⟨(), by decide, rfl⟩, (), by decide, _, hitems, rfl⟩

theorem crowdedPayload_size : byteCount (jsonbText crowdedPayload) = 262145 := by
  have hkey : byteCount (renderString "a") = 3 := by decide +kernel
  have hnumbers : treeSize 2 (.num 11) = 2 ∧ treeSize 2 (.num 1) = 1 := by decide +kernel
  rw [byteCount_jsonbText, crowdedPayload, treeSize_obj]
  simp [treeSize_arr, treeSize_controls, hkey, hnumbers]

/-- The validator counts 262142 bytes and the table 262145. -/
theorem crowdedPayload_refused :
    validateOutboxPayload id crowdedPayload = .ok crowdedPayload ∧ payloadShape crowdedPayload = false := by
  constructor
  · exact validateOutboxPayload_eq_ok.mpr ⟨rfl, 262142, 10, crowdedPayload_budget, by decide⟩
  · have hsize := crowdedPayload_size
    rw [crowdedPayload] at hsize ⊢
    rw [payloadShape_obj, hsize]
    rfl

end Workstream.Outbox.Payloads
