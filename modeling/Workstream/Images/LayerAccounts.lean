import Workstream.Images.Layers
import Mathlib.Data.List.Dedup
import Mathlib.Data.List.Infix
import Mathlib.Algebra.Order.BigOperators.Group.List

/-! # What a layer is charged for -/

namespace Workstream.Images
open Foundation

section Stream

variable {maximumBytes maximumEntries : ℕ} {stream next last : LayerStream}

/-- Both totals are within their maxima. -/
structure ExpandedImage.Within (maximumBytes maximumEntries : ℕ) (expanded : ExpandedImage) : Prop where
  bytes : expanded.bytes ≤ maximumBytes
  entries : expanded.entries ≤ maximumEntries

/-- From one state of a stream to a later one: the bytes taken, the entries charged, and the budget that
is kept. -/
structure Advances (maximumBytes maximumEntries : ℕ) (taken : Bytes) (charged : ℕ)
    (stream next : LayerStream) : Prop where
  rest : stream.source.rest = taken ++ next.source.rest
  entries : next.expanded.entries = stream.expanded.entries + charged
  bytes : next.expanded.bytes = stream.expanded.bytes + taken.length + 4096 * charged
  within : stream.expanded.Within maximumBytes maximumEntries →
    next.expanded.Within maximumBytes maximumEntries

variable {taken : Bytes}

theorem Advances.trans {taken' : Bytes} {charged charged' : ℕ}
    (h : Advances maximumBytes maximumEntries taken charged stream next)
    (h' : Advances maximumBytes maximumEntries taken' charged' next last) :
    Advances maximumBytes maximumEntries (taken ++ taken') (charged + charged') stream last where
  rest := by rw [h.rest, h'.rest, List.append_assoc]
  entries := by rw [h'.entries, h.entries, Nat.add_assoc]
  bytes := by
    rw [h'.bytes, h.bytes, List.length_append]
    omega
  within := fun hwithin => h'.within (h.within hwithin)

theorem Advances.refl (stream : LayerStream) :
    Advances maximumBytes maximumEntries [] 0 stream stream :=
  ⟨rfl, rfl, rfl, id⟩

variable {length : ℕ} {piece : Bytes}

theorem Source.read_eq_some {source source' : Source} (h : source.read length = some (piece, source')) :
    source.rest = piece ++ source'.rest ∧ piece.length ≤ length ∧
      (piece = [] → length = 0 ∨ source.rest = []) := by
  unfold Source.read at h
  split at h
  · obtain ⟨rfl, rfl⟩ := Prod.mk.inj (Option.some.inj h)
    refine ⟨(List.take_append_drop _ _).symm, List.length_take_le _ _, fun hempty => ?_⟩
    exact List.take_eq_nil_iff.mp hempty
  · exact nomatch h
  · rename_i count answers _
    obtain ⟨rfl, rfl⟩ := Prod.mk.inj (Option.some.inj h)
    refine ⟨(List.take_append_drop _ _).symm, ?_, fun hempty => ?_⟩
    · exact (List.length_take_le _ _).trans (Nat.min_le_left _ _)
    · rcases List.take_eq_nil_iff.mp hempty with hzero | hrest
      · left
        omega
      · exact Or.inr hrest

variable {turns : ℕ}

end Stream

section Layer

variable {validUtf8 : Bytes → Bool} {maximumBytes maximumEntries : ℕ} {stream next last : LayerStream}
  {nextPath : Option Bytes} {member : Member validUtf8} {members : List (Member validUtf8)}

/-- Metadata describes the next member. -/
def Member.metadata (member : Member validUtf8) : Bool := isMetadata member.header

/-- The path that is left for the next member. -/
def Member.leaves (nextPath : Option Bytes) (member : Member validUtf8) : Option Bytes :=
  match metadataPath validUtf8 member.header member.content nextPath with
  | .ok path => path
  | .error _ => nextPath

/-- The path of a member. -/
def Member.name (nextPath : Option Bytes) (member : Member validUtf8) : Bytes :=
  match entryPath validUtf8 member.header nextPath with
  | .ok path => path
  | .error _ => []

def names : Option Bytes → List (Member validUtf8) → List Bytes
  | _, [] => []
  | nextPath, member :: members =>
    if member.metadata then names (member.leaves nextPath) members
    else member.name nextPath :: names none members

/-- A path is charged for each of its parts, and for one at least. -/
def pathCharge (path : Bytes) : ℕ := max (pathParts path).length 1

/-- The entries that some members are charged. -/
def charges (nextPath : Option Bytes) (members : List (Member validUtf8)) : ℕ :=
  ((names nextPath members).map pathCharge).sum + members.countP Member.metadata

/-- What the scanner knows of a member that it takes. -/
structure Member.Supported (member : Member validUtf8) : Prop where
  checksum : validateTarChecksum validUtf8 member.header = .ok ()
  kind : member.metadata = true ∨ isEntry member.header = true

variable {header : Bytes}

variable {path : Option Bytes}

/-- A layer that is scanned to its end: members, no metadata left over, and at least two zero blocks. -/
structure Scanned (maximumBytes maximumEntries : ℕ) (nextPath : Option Bytes) (pending : Bool)
    (stream last : LayerStream) (members : List (Member validUtf8)) (zeros : ℕ) : Prop where
  advances : Advances maximumBytes maximumEntries (membersBytes members ++ List.replicate zeros 0)
    (charges nextPath members) stream last
  done : last.source.rest = []
  tail : 1024 ≤ zeros
  supported : ∀ member ∈ members, member.Supported
  closed : (members.getLast?.map Member.metadata).getD pending = false

theorem Scanned.cons {pending : Bool} {charged zeros : ℕ} {filled : LayerStream}
    (hfill : Advances maximumBytes maximumEntries member.header 0 stream filled)
    (hbody : Advances maximumBytes maximumEntries (member.content ++ member.padding) charged filled next)
    (hsupported : member.Supported)
    (hcharge : charges nextPath (member :: members) = charged + charges path members)
    (h : Scanned maximumBytes maximumEntries path member.metadata next last members zeros) :
    Scanned maximumBytes maximumEntries nextPath pending stream last (member :: members) zeros := by
  refine ⟨?_, h.done, h.tail, List.forall_mem_cons.mpr ⟨hsupported, h.supported⟩, ?_⟩
  · have hadv := (hfill.trans hbody).trans h.advances
    rw [membersBytes_cons, hcharge, List.append_assoc, Member.bytes]
    rw [Nat.zero_add] at hadv
    exact hadv
  · have hclosed := h.closed
    cases members with
    | nil | cons => exact hclosed

end Layer

section Nodes

variable {validUtf8 : Bytes → Bool}

/-- The nodes that a path names: itself and its ancestors, or the root alone. -/
def nodesOf (path : Bytes) : List (List Bytes) :=
  if pathParts path = [] then [[]] else (pathParts path).inits.tail

/-- The different nodes that the members of a layer name. -/
def nodeCount (members : List (Member validUtf8)) : ℕ :=
  ((names none members).flatMap nodesOf).dedup.length

end Nodes

section Layers

variable {validUtf8 : Bytes → Bool} {maximumBytes maximumEntries : ℕ} {sha256 : Bytes → String}
  {plain : ℕ → Bytes → List Answer} {gunzip : ℕ → Bytes → Source} {file : Bytes}
  {entries : List (Bytes × (ℕ × ℕ))}

/-- A stream as members, metadata among them, and a tail of zeros. -/
structure LayerTiling (stream : Bytes) (members : List (Member validUtf8)) (zeros : ℕ) : Prop where
  bytes : stream = membersBytes members ++ List.replicate zeros 0
  tail : 1024 ≤ zeros
  supported : ∀ member ∈ members, member.Supported
  closed : ∀ member ∈ members.getLast?, member.metadata = false

theorem Scanned.tiling {nextPath : Option Bytes} {stream last : LayerStream}
    {members : List (Member validUtf8)} {zeros : ℕ}
    (h : Scanned maximumBytes maximumEntries nextPath false stream last members zeros) :
    LayerTiling stream.source.rest members zeros where
  bytes := by
    have hrest := h.advances.rest
    rw [h.done, List.append_nil] at hrest
    exact hrest
  tail := h.tail
  supported := h.supported
  closed := by
    intro member hmember
    have hclosed := h.closed
    rw [hmember] at hclosed
    exact hclosed

/-- A stream with the members and the zeros that it was read as. -/
structure ScannedLayer (validUtf8 : Bytes → Bool) where
  stream : Bytes
  members : List (Member validUtf8)
  zeros : ℕ
  tiling : LayerTiling stream members zeros

/-- The nodes and metadata records of a layer. -/
def ScannedLayer.nodes (layer : ScannedLayer validUtf8) : ℕ :=
  nodeCount layer.members + layer.members.countP Member.metadata

variable {expanded expanded' : ExpandedImage}

end Layers

def sampleEntries : List (Bytes × (ℕ × ℕ)) := [(ascii "base", (0, 2048)), (ascii "top", (2048, 2560))]

end Workstream.Images
