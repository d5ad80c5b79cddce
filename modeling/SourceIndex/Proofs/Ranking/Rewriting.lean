import SourceIndex.Proofs.Json.Singles
import SourceIndex.Proofs.Ranking.Acceptance

set_option autoImplicit false

namespace SourceIndex.Ranking

open RankedChunk Json

theorem narrows_within {number : Json} {score : Floating} (narrowed : Narrows number score) :
    FloatFormat.single.Within score := by
  cases narrowed with
  | integer value => exact FloatFormat.single.round_within (by decide) _ _ _ Nat.one_pos
  | double value => exact FloatFormat.single.convert_within (by decide) value

/-- The scores that are accepted are numbers of 32 bits. -/
theorem within_of_parse {output : String} {chunks : List RankedChunk}
    (accepted : parse output = .ok chunks) :
    ∀ chunk ∈ chunks, FloatFormat.single.Within chunk.score := by
  obtain ⟨items, -, each⟩ := (parse_eq_ok_iff output chunks).mp accepted
  clear accepted
  induction each with
  | nil => exact List.forall_mem_nil _
  | cons held later ih =>
      refine List.forall_mem_cons.mpr ⟨?_, ih⟩
      cases held with
      | object members chunk fields =>
          obtain ⟨number, -, narrowed⟩ := fields.score
          exact narrows_within narrowed
      | list id file code number score narrowed => exact narrows_within narrowed

/-- The members of a chunk as they are written, with what is read of them. -/
def membersOf (chunk : RankedChunk) : List Member :=
  [("id", .string chunk.id, .string chunk.id), ("file", .string chunk.file, .string chunk.file),
    ("code", .string chunk.code, .string chunk.code),
    ("score", .single chunk.score, readingOfSingle chunk.score)]

theorem toJson_eq_written (layout : Layout) (chunks : List RankedChunk) :
    (toJson chunks).render layout = written layout (chunks.map membersOf) := by
  rw [toJson, written, List.map_map]
  rfl

theorem rereads_membersOf {chunk : RankedChunk} (within : FloatFormat.single.Within chunk.score) :
    ∀ member ∈ membersOf chunk, Rereads (depthLimit - 2) member.2.1 member.2.2 := by
  simp only [membersOf, List.forall_mem_cons]
  exact ⟨.string _ _, .string _ _, .string _ _, .single _ within, List.forall_mem_nil _⟩

/-- A chunk as it is read again: its members in the order of their names. -/
def reread (chunk : RankedChunk) : Json :=
  .object [("code", .string chunk.code), ("file", .string chunk.file), ("id", .string chunk.id),
    ("score", readingOfSingle chunk.score)]

theorem object_gather_membersOf (chunk : RankedChunk) :
    .object (gather ((membersOf chunk).map fun member => (member.1, member.2.2))) =
      reread chunk := by
  have before : "code" < "file" ∧ "file" < "id" := by decide
  have after : ¬ "score" < "code" ∧ ¬ "score" < "file" ∧ ¬ "score" < "id" := by decide
  simp only [membersOf, reread, gather, List.map_cons, List.map_nil, List.foldl_cons,
    List.foldl_nil, insertMember, before, after, ↓reduceIte,
    show ("file" == "id") = false by decide, show ("code" == "file") = false by decide,
    show ("score" == "code") = false by decide, show ("score" == "file") = false by decide,
    show ("score" == "id") = false by decide, Bool.false_eq_true]

theorem conform_reread_finite {chunk : RankedChunk}
    (within : FloatFormat.single.Within chunk.score) (finite : chunk.score.isInfinite = false) :
    conform RankedChunk.shape (reread chunk) = .ok chunk.toJson := by
  obtain ⟨number, reading, rounded⟩ := readingOfSingle_finite within finite
  rw [reread, reading, RankedChunk.toJson, ← rounded]
  rfl

theorem read_render_toJson {chunks : List RankedChunk}
    (within : ∀ chunk ∈ chunks, FloatFormat.single.Within chunk.score) (layout : Layout) :
    Json.parse (Text.trimString (String.ofList ((toJson chunks).render layout))) =
      .ok (.array (chunks.map reread)) := by
  have each : ∀ members ∈ chunks.map membersOf, ∀ member ∈ members,
      Rereads (depthLimit - 2) member.2.1 member.2.2 := by
    intro members inside
    obtain ⟨chunk, held, rfl⟩ := List.mem_map.mp inside
    exact rereads_membersOf (within chunk held)
  have read : Json.parse (Text.trimString (String.ofList
      ([] ++ written layout (chunks.map membersOf) ++ []))) = _ :=
    parse_written each (List.forall_mem_nil _) (List.forall_mem_nil _)
  rw [List.nil_append, List.append_nil, ← toJson_eq_written, List.map_map] at read
  simpa only [Function.comp_def, object_gather_membersOf] using read

/-- What is wrong with a score that is null. -/
def nullScore : Cause := .invalidType (.ofValue .null) "f32"

theorem conform_reread_infinite {chunk : RankedChunk} (infinite : chunk.score.isInfinite = true) :
    conform RankedChunk.shape (reread chunk) = .error nullScore := by
  rw [reread, readingOfSingle_infinite infinite]
  rfl

/-- Whether all scores are finite. -/
def allFinite (chunks : List RankedChunk) : Bool := chunks.all fun chunk => !chunk.score.isInfinite

/-- Chunks are read again one after the other, up to the first one with an infinite score. -/
theorem mapM_conform_reread {chunks : List RankedChunk}
    (within : ∀ chunk ∈ chunks, FloatFormat.single.Within chunk.score) :
    (chunks.map reread).mapM (conform RankedChunk.shape) =
      if allFinite chunks then .ok (chunks.map RankedChunk.toJson) else .error nullScore := by
  induction chunks with
  | nil => rfl
  | cons chunk chunks ih =>
      obtain ⟨here, later⟩ := List.forall_mem_cons.mp within
      rw [List.map_cons, List.mapM_cons, ih later]
      cases infinite : chunk.score.isInfinite
      · have same : allFinite (chunk :: chunks) = allFinite chunks := by
          simp only [allFinite, List.all_cons, infinite, Bool.not_false, Bool.true_and]
        rw [conform_reread_finite here infinite, same]
        cases allFinite chunks <;> rfl
      · have none : allFinite (chunk :: chunks) = false := by
          simp only [allFinite, List.all_cons, infinite, Bool.not_true, Bool.false_and]
        rw [conform_reread_infinite infinite, none]
        rfl

/-- What was accepted once is accepted again as it is, in every layout, if all scores are finite. An
infinite score is written as null and rejected. -/
theorem parse_render_toJson {output : String} {chunks : List RankedChunk}
    (accepted : parse output = .ok chunks) (layout : Layout) :
    parse (String.ofList ((toJson chunks).render layout)) =
      if allFinite chunks then .ok chunks
      else .error (.invalidOutput "invalid type: null, expected f32") := by
  have within := within_of_parse accepted
  have back : (chunks.map RankedChunk.toJson).filterMap RankedChunk.ofJson? = chunks := by
    rw [List.filterMap_map]
    exact List.filterMap_some
  rw [parse_of_ok (read_render_toJson within layout), ofJson, mapM_conform_reread within]
  cases allFinite chunks
  · rfl
  · simp only [↓reduceIte, back]

/-- A score a little larger than the greatest number of 32 bits, which it is rounded to. -/
theorem parse_render_toJson_greatest :
    parse "[\x7b\"id\":\"a\",\"file\":\"f\",\"code\":\"c\",\"score\":3.40282356e38\x7d]" =
        .ok [⟨"a", "f", "c", .finite false 16777215 104⟩] ∧
      parse (String.ofList ((toJson [⟨"a", "f", "c", .finite false 16777215 104⟩]).render none)) =
        .ok [⟨"a", "f", "c", .finite false 16777215 104⟩] := by
  have accepted : parse
      "[\x7b\"id\":\"a\",\"file\":\"f\",\"code\":\"c\",\"score\":3.40282356e38\x7d]" =
        .ok [⟨"a", "f", "c", .finite false 16777215 104⟩] := by decide +kernel
  exact ⟨accepted, parse_render_toJson accepted none⟩

/-- A score that is too large for 32 bits is accepted once, and not again. -/
theorem parse_not_again_infinite :
    parse "[\x7b\"id\":\"a\",\"file\":\"f\",\"code\":\"c\",\"score\":1e39\x7d]" =
        .ok [⟨"a", "f", "c", .infinite false⟩] ∧
      parse (String.ofList ((toJson [⟨"a", "f", "c", .infinite false⟩]).render none)) ≠
        .ok [⟨"a", "f", "c", .infinite false⟩] := by
  decide +kernel

end SourceIndex.Ranking
