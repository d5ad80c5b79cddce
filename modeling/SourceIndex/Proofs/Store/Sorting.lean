import SourceIndex.Store

set_option autoImplicit false

namespace SourceIndex.Store

/-- By their files, records may stand in this order. -/
def fileLe (first second : Chunk) : Bool := decide (first.file ≤ second.file)

/-- The records in the order of their files, those of one file as they were. -/
def sortedByFile (records : List Chunk) : List Chunk := records.mergeSort fileLe

/-- The records of one file. -/
def ofFile (path : String) (records : List Chunk) : List Chunk :=
  records.filter fun record => record.file == path

theorem fileLe_iff {first second : Chunk} : fileLe first second = true ↔ first.file ≤ second.file :=
  decide_eq_true_iff

theorem fileLe_trans (first second third : Chunk) (below : fileLe first second = true)
    (above : fileLe second third = true) : fileLe first third = true :=
  fileLe_iff.mpr (String.le_trans (fileLe_iff.mp below) (fileLe_iff.mp above))

theorem fileLe_total (first second : Chunk) :
    (fileLe first second || fileLe second first) = true := by
  rw [Bool.or_eq_true, fileLe_iff, fileLe_iff]
  exact String.le_total first.file second.file

theorem mem_ofFile {path : String} {record : Chunk} {records : List Chunk} :
    record ∈ ofFile path records ↔ record ∈ records ∧ record.file = path := by
  rw [ofFile, List.mem_filter, beq_iff_eq]

theorem ofFile_sortedByFile (path : String) (records : List Chunk) :
    ofFile path (sortedByFile records) = ofFile path records := by
  have level : (ofFile path records).Pairwise fun first second => fileLe first second = true := by
    refine List.pairwise_of_forall_mem_list ?_
    intro first member second member'
    have same := (mem_ofFile.mp member).2.trans (mem_ofFile.mp member').2.symm
    exact fileLe_iff.mpr (same ▸ String.le_refl first.file)
  have kept : (ofFile path records).Sublist (sortedByFile records) :=
    List.sublist_mergeSort fileLe_trans fileLe_total level List.filter_sublist
  have inside : (ofFile path records).Sublist (ofFile path (sortedByFile records)) := by
    have again := kept.filter fun record => record.file == path
    simpa only [ofFile, List.filter_filter, Bool.and_self] using again
  have many := ((List.mergeSort_perm records fileLe).filter fun record => record.file == path)
  exact (inside.eq_of_length many.length_eq.symm).symm

theorem ofFile_cons (path : String) (record : Chunk) (records : List Chunk) :
    ofFile path (record :: records) =
      if record.file == path then record :: ofFile path records else ofFile path records := by
  rw [ofFile, List.filter_cons]
  rfl

theorem mem_of_same_files {first second : List Chunk}
    (same : ∀ path, ofFile path first = ofFile path second) {record : Chunk}
    (member : record ∈ first) : record ∈ second := by
  have inside := mem_ofFile.mpr ⟨member, rfl⟩
  rw [same] at inside
  exact (mem_ofFile.mp inside).1

theorem head_le {record other : Chunk} {records : List Chunk}
    (sorted : (record :: records).Pairwise fun first second => fileLe first second = true)
    (member : other ∈ record :: records) : record.file ≤ other.file := by
  rcases List.mem_cons.mp member with rfl | later
  · exact String.le_refl _
  · exact fileLe_iff.mp ((List.pairwise_cons.mp sorted).1 other later)

/-- Two sorted lists are equal if each file has the same records in both. -/
theorem eq_of_sorted {first second : List Chunk}
    (sorted : first.Pairwise fun record later => fileLe record later = true)
    (sorted' : second.Pairwise fun record later => fileLe record later = true)
    (same : ∀ path, ofFile path first = ofFile path second) : first = second := by
  induction first generalizing second with
  | nil =>
      cases second with
      | nil => rfl
      | cons record second =>
          cases mem_of_same_files (fun path => (same path).symm) List.mem_cons_self
  | cons record first ih =>
      cases second with
      | nil => cases mem_of_same_files same List.mem_cons_self
      | cons record' second =>
          have below := head_le sorted
            (mem_of_same_files (fun path => (same path).symm) List.mem_cons_self)
          have above := head_le sorted' (mem_of_same_files same List.mem_cons_self)
          -- Both heads are the first record of one file.
          have level := String.le_antisymm below above
          have heads := same record.file
          rw [ofFile_cons, ofFile_cons, ← level, if_pos (beq_self_eq_true _),
            if_pos (beq_self_eq_true _)] at heads
          obtain ⟨rfl, -⟩ := List.cons.inj heads
          rw [ih (List.pairwise_cons.mp sorted).2 (List.pairwise_cons.mp sorted').2]
          intro path
          have tails := same path
          rw [ofFile_cons, ofFile_cons] at tails
          split at tails
          · exact (List.cons.inj tails).2
          · exact tails

theorem sortedByFile_eq_iff (first second : List Chunk) :
    sortedByFile first = sortedByFile second ↔ ∀ path, ofFile path first = ofFile path second := by
  constructor
  · intro same path
    rw [← ofFile_sortedByFile, same, ofFile_sortedByFile]
  · intro same
    refine eq_of_sorted (List.pairwise_mergeSort fileLe_trans fileLe_total first)
      (List.pairwise_mergeSort fileLe_trans fileLe_total second) ?_
    intro path
    rw [ofFile_sortedByFile, ofFile_sortedByFile, same]

end SourceIndex.Store
