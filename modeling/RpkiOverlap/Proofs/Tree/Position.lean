import RpkiOverlap.Proofs.Tree.Segments

/-! # Paths as sequences of indices

Below the root a segment is the numeral of an index.  Here the texts of such positions are read
back: `Path.ofIndices` writes down a sequence of indices, every position below the root has such a
path (`ofIndices_nil`, `child_ofIndices`), and one text begins with another exactly when the one
sequence begins with the other (`text_prefix_iff`).  The slash behind every index makes the
difference: without it the text of `1` would begin that of `10`.

`segments_exact` says what holds of all paths and of those below the root.
-/
namespace RpkiOverlap.Path

/-- The text of indices, with a slash behind each. -/
def segments (xs : List Nat) : List Char := xs.flatMap fun x => Text.decimal x ++ ['/']

/-- The path that goes down from the root by the given indices. -/
def ofIndices (xs : List Nat) : Path := ⟨.ofList ('/' :: segments xs)⟩

/-- The indices are written as segments, each as its numeral. -/
theorem consistsOf_ofIndices (xs : List Nat) : (ofIndices xs).ConsistsOf (xs.map Text.decimal) where
  text := by simp [ofIndices, segments, joined, List.flatMap_map]
  plain s hs := by
    obtain ⟨x, -, rfl⟩ := List.mem_map.1 hs
    exact slash_not_mem_decimal x

theorem ofIndices_nil : ofIndices [] = root := rfl

theorem child_ofIndices (xs : List Nat) (x : Nat) :
    (ofIndices xs).child x = ofIndices (xs ++ [x]) := by
  simp [child, ofIndices, segments]

example : ofIndices [0, 13, 1] = ⟨"/0/13/1/"⟩ := by decide

/-! ## Prefixes of texts -/

theorem decimal_injective : Function.Injective Text.decimal := fun _ _ => Text.decimal_inj

/-- One path begins with another exactly when its indices begin with the other's. -/
theorem text_prefix_iff {xs ys : List Nat} :
    (ofIndices xs).text.toList <+: (ofIndices ys).text.toList ↔ xs <+: ys := by
  rw [(consistsOf_ofIndices xs).prefix_iff (consistsOf_ofIndices ys),
    List.prefix_map_iff_of_injective decimal_injective]

theorem ofIndices_inj {xs ys : List Nat} : ofIndices xs = ofIndices ys ↔ xs = ys := by
  rw [(consistsOf_ofIndices xs).eq_iff (consistsOf_ofIndices ys),
    (List.map_injective_iff.2 decimal_injective).eq_iff]

theorem ofIndices_injective : Function.Injective ofIndices := fun _ _ => ofIndices_inj.1

/-- A position lies as deep as it has indices. -/
theorem depth_ofIndices (xs : List Nat) : (ofIndices xs).depth = xs.length := by
  rw [(consistsOf_ofIndices xs).depth_eq, List.length_map]

/-- Related are the positions of which one lies properly above the other. -/
theorem related_ofIndices {xs ys : List Nat} :
    (ofIndices xs).related (ofIndices ys) = true ↔ xs ≠ ys ∧ (xs <+: ys ∨ ys <+: xs) := by
  rw [(consistsOf_ofIndices xs).related_iff (consistsOf_ofIndices ys), ne_eq, ne_eq,
    (List.map_injective_iff.2 decimal_injective).eq_iff,
    List.prefix_map_iff_of_injective decimal_injective,
    List.prefix_map_iff_of_injective decimal_injective]

/-! ## All paths -/

/-- Steps down from the root are the indices of the path. -/
theorem foldl_child_root (xs : List Nat) : xs.foldl child root = ofIndices xs := by
  induction xs using List.reverseRecOn with
  | nil => exact ofIndices_nil
  | append_singleton xs x ih =>
    rw [List.foldl_append, ih]
    exact child_ofIndices xs x

/-- **Texts of paths are positions in a tree.**  A path that comes about from the root or any text
by steps down is a row of segments without slashes, in one way only.  Its depth is the number of its
segments, equal are the paths with the same segments, and related are those of which one has all
the segments of the other in front and further ones behind them.  The relation is symmetric, and no
path is related to itself.  Steps down from the root are written as numerals, so different steps
lead to different paths. -/
theorem segments_exact :
    (∀ p, Built p → ∃! ss, p.ConsistsOf ss) ∧
    (∀ (p q : Path) ss ts, p.ConsistsOf ss → q.ConsistsOf ts →
      p.depth = ss.length ∧ (p = q ↔ ss = ts) ∧
      (p.related q = true ↔ ss ≠ ts ∧ (ss <+: ts ∨ ts <+: ss))) ∧
    (∀ p q : Path, p.related q = q.related p) ∧ (∀ p : Path, p.related p = false) ∧
    (∀ xs : List Nat, (xs.foldl child root).ConsistsOf (xs.map Text.decimal)) ∧
    (∀ xs ys : List Nat, xs.foldl child root = ys.foldl child root ↔ xs = ys) ∧
    (∀ xs ys : List Nat, (xs.foldl child root).related (ys.foldl child root) = true ↔
      xs ≠ ys ∧ (xs <+: ys ∨ ys <+: xs)) := by
  refine ⟨?_, ?_, related_comm, related_self, ?_, ?_, ?_⟩
  · intro p hp
    obtain ⟨ss, hss⟩ := built_iff.1 hp
    exact ⟨ss, hss, fun ts hts => hts.unique hss⟩
  · intro p q ss ts hp hq
    exact ⟨hp.depth_eq, hp.eq_iff hq, hp.related_iff hq⟩
  · intro xs
    rw [foldl_child_root]
    exact consistsOf_ofIndices xs
  · intro xs ys
    rw [foldl_child_root, foldl_child_root, ofIndices_inj]
  · intro xs ys
    rw [foldl_child_root, foldl_child_root, related_ofIndices]

end RpkiOverlap.Path
