import RpkiOverlap.Address.V6
import RpkiOverlap.Proofs.Address.V4
import RpkiOverlap.Proofs.Result

/-! # IPv6 address text read back

The text that is written for a number is read as that number (`read?_print`), in all three forms:
eight groups, groups with a gap, and a mapped IPv4 address.

* Written groups are read back (`readGroups?_hexadecimal`), and none of them looks like an IPv4
  address.
* The gap is found where it was written: written groups never have two colons in a row
  (`cutAtGap_printGroups`).
* The gap stands for the zeros that were left out (`longestZeros_spec`).

Any text that is read as a number is made of hexadecimal digits, colons and points
(`mem_of_read?`).
-/
namespace RpkiOverlap.Address.V6
open Text

/-! ## Groups -/

theorem colon_not_mem_hexadecimal (g : Nat) : ':' ∉ hexadecimal g := by
  intro h
  obtain ⟨d, hd, heq⟩ := mem_toDigits (by decide) h
  revert heq
  decide +revert

theorem point_not_mem_hexadecimal (g : Nat) : '.' ∉ hexadecimal g := by
  intro h
  obtain ⟨d, hd, heq⟩ := mem_toDigits (by decide) h
  revert heq
  decide +revert

theorem readGroup?_hexadecimal {g : Nat} (h : g < 65536) : readGroup? (hexadecimal g) = some g := by
  have hlength : (hexadecimal g).length ≤ 4 := length_hexadecimal_le (by decide) (by omega)
  rw [readGroup?, if_neg (not_or.2 ⟨hexadecimal_ne_nil g, by omega⟩), foldlM_hexadecimal]

/-- A text without points is no IPv4 address. -/
theorem read?_eq_none_of_point {s : List Char} (h : '.' ∉ s) : V4.read? s = none := by
  rw [V4.read?, List.splitOn_eq_singleton h]

/-- Written groups are read back. -/
theorem mapM_readGroup? {gs : List Nat} (h : ∀ g ∈ gs, g < 65536) :
    (gs.map hexadecimal).mapM readGroup? = some gs := by
  induction gs with
  | nil => rfl
  | cons g gs ih =>
    obtain ⟨hg, hgs⟩ := List.forall_mem_cons.1 h
    simp [readGroup?_hexadecimal hg, ih hgs]

theorem readGroups?_hexadecimal {gs : List Nat} (h : ∀ g ∈ gs, g < 65536) :
    readGroups? (gs.map hexadecimal) = some gs := by
  induction gs with
  | nil => rfl
  | cons g gs ih =>
    obtain ⟨hg, hgs⟩ := List.forall_mem_cons.1 h
    cases gs with
    | nil =>
      simp [readGroups?, read?_eq_none_of_point (point_not_mem_hexadecimal g),
        readGroup?_hexadecimal hg]
    | cons g' gs =>
      have ih := ih hgs
      rw [List.map_cons] at ih
      simp [readGroups?, readGroup?_hexadecimal hg, ih]

/-! ## Joined groups -/

theorem printGroups_cons_cons (g g' : Nat) (gs : List Nat) :
    printGroups (g :: g' :: gs) = hexadecimal g ++ ':' :: printGroups (g' :: gs) := by
  simp [printGroups, List.intercalate]

theorem printGroups_singleton (g : Nat) : printGroups [g] = hexadecimal g := by
  simp [printGroups, List.intercalate]

theorem printGroups_cons_ne_nil (g : Nat) (gs : List Nat) : printGroups (g :: gs) ≠ [] := by
  cases gs with
  | nil => simpa [printGroups_singleton] using hexadecimal_ne_nil g
  | cons g' gs => simp [printGroups_cons_cons]

theorem splitOn_printGroups (g : Nat) (gs : List Nat) :
    (printGroups (g :: gs)).splitOn ':' = (g :: gs).map hexadecimal := by
  refine List.splitOn_intercalate ':' (fun l hl => ?_) (by simp)
  obtain ⟨m, _, rfl⟩ := List.mem_map.1 hl
  exact colon_not_mem_hexadecimal m

theorem groupTexts_printGroups (gs : List Nat) :
    groupTexts (printGroups gs) = gs.map hexadecimal := by
  cases gs with
  | nil => rfl
  | cons g gs => rw [groupTexts, if_neg (printGroups_cons_ne_nil g gs), splitOn_printGroups]

/-! ## The gap -/

/-- No gap begins at a character that is no colon. -/
theorem cutAtGap_cons {c : Char} {s : List Char} (h : c ≠ ':') :
    cutAtGap (c :: s) = (cutAtGap s).map fun p => (c :: p.1, p.2) := by
  rw [cutAtGap]
  exact fun r heq => absurd heq h

/-- No gap begins at a single colon. -/
theorem cutAtGap_colon {c : Char} {s : List Char} (h : c ≠ ':') :
    cutAtGap (':' :: c :: s) = (cutAtGap (c :: s)).map fun p => (':' :: p.1, p.2) := by
  rw [cutAtGap]
  exact fun r _ heq => h (List.cons.inj heq).1

theorem cutAtGap_word {word s : List Char} (h : ':' ∉ word) :
    cutAtGap (word ++ s) = (cutAtGap s).map fun p => (word ++ p.1, p.2) := by
  induction word with
  | nil => simp
  | cons c word ih =>
    obtain ⟨hc, hword⟩ := not_or.1 fun h' => h (List.mem_cons.2 h')
    rw [List.cons_append, cutAtGap_cons (Ne.symm hc), ih hword, Option.map_map]
    rfl

/-- Written groups have no gap, and end in no colon: the first gap is that of what follows. -/
theorem cutAtGap_printGroups (gs : List Nat) (s : List Char) :
    cutAtGap (printGroups gs ++ s) = (cutAtGap s).map fun p => (printGroups gs ++ p.1, p.2) := by
  induction gs with
  | nil => simp [printGroups, List.intercalate]
  | cons g gs ih =>
    cases gs with
    | nil => rw [printGroups_singleton, cutAtGap_word (colon_not_mem_hexadecimal g)]
    | cons g' gs =>
      -- the single colon stands before a digit of the next group
      obtain ⟨c, word, hword⟩ : ∃ c word, c ≠ ':' ∧ printGroups (g' :: gs) = c :: word := by
        obtain ⟨c, word, hword⟩ := List.exists_cons_of_ne_nil (hexadecimal_ne_nil g')
        have hc : c ≠ ':' := fun heq => colon_not_mem_hexadecimal g' (by simp [hword, heq])
        cases gs with
        | nil => exact ⟨c, word, hc, by rw [printGroups_singleton, hword]⟩
        | cons => exact ⟨c, _, hc, by rw [printGroups_cons_cons, hword, List.cons_append]⟩
      obtain ⟨hc, hword⟩ := hword
      rw [printGroups_cons_cons, List.append_assoc, cutAtGap_word (colon_not_mem_hexadecimal g),
        List.cons_append]
      rw [hword, List.cons_append] at ih ⊢
      rw [cutAtGap_colon hc, ih, Option.map_map, Option.map_map]
      refine congrArg (Option.map · _) (funext fun p => ?_)
      simp

theorem leadingZeros_spec (gs : List Nat) :
    List.replicate (leadingZeros gs) 0 ++ gs.drop (leadingZeros gs) = gs := by
  induction gs with
  | nil => rfl
  | cons g gs ih =>
    by_cases hg : g = 0
    · have hcount : leadingZeros (g :: gs) = leadingZeros gs + 1 := by simp [leadingZeros, hg]
      rw [hcount, List.replicate_succ, List.drop_succ_cons, List.cons_append, ih, hg]
    · simp [leadingZeros, hg]

/-- The longest run of zeros is made of zeros. -/
theorem longestZeros_spec (gs : List Nat) :
    gs.take (longestZeros gs).1 ++ (List.replicate (longestZeros gs).2 0 ++
      gs.drop ((longestZeros gs).1 + (longestZeros gs).2)) = gs := by
  induction gs with
  | nil => rfl
  | cons g gs ih =>
    rw [longestZeros]
    by_cases hlater : (longestZeros gs).2 ≤ leadingZeros (g :: gs)
    · simp only [if_pos hlater, List.take_zero, List.nil_append, Nat.zero_add]
      exact leadingZeros_spec (g :: gs)
    · simp only [if_neg hlater, List.take_succ_cons, Nat.succ_add, List.drop_succ_cons,
        List.cons_append]
      rw [ih]

/-! ## Addresses -/

/-- Written groups around a gap are read back, and the gap as the zeros that make them eight. -/
theorem readAll?_gap {front back : List Nat} {count : Nat} (hcount : 1 < count)
    (htotal : front.length + (count + back.length) = 8) (hfront : ∀ g ∈ front, g < 65536)
    (hback : ∀ g ∈ back, g < 65536) :
    readAll? (printGroups front ++ [':', ':'] ++ printGroups back) =
      some (front ++ (List.replicate count 0 ++ back)) := by
  have hgap : cutAtGap (printGroups front ++ ([':', ':'] ++ printGroups back)) =
      some (printGroups front, printGroups back) := by
    rw [cutAtGap_printGroups]
    simp [cutAtGap]
  have hzeros : 8 - front.length - back.length = count := by omega
  have hle : front.length + back.length ≤ 7 := by omega
  simp only [List.append_assoc, readAll?, hgap, groupTexts_printGroups, mapM_readGroup? hfront,
    readGroups?_hexadecimal hback, Option.bind_eq_bind, Option.bind_some, if_pos hle, hzeros]

/-- Eight written groups are read back. -/
theorem readAll?_groups {gs : List Nat} (hlength : gs.length = 8) (hgs : ∀ g ∈ gs, g < 65536) :
    readAll? (printGroups gs) = some gs := by
  have hgap : cutAtGap (printGroups gs) = none := by
    simpa [cutAtGap] using cutAtGap_printGroups gs []
  have hsplit : (printGroups gs).splitOn ':' = gs.map hexadecimal := by
    obtain ⟨g, gs', rfl⟩ := List.exists_cons_of_length_pos (by omega : 0 < gs.length)
    exact splitOn_printGroups g gs'
  simp only [readAll?, hgap, hsplit, readGroups?_hexadecimal hgs, Option.bind_eq_bind,
    Option.bind_some, if_pos hlength]

/-- Eight groups are read back when their longest run of zeros is left out. -/
theorem readAll?_longestZeros {gs : List Nat} (hlength : gs.length = 8)
    (hgs : ∀ g ∈ gs, g < 65536) (h : 1 < (longestZeros gs).2) :
    readAll? (printGroups (gs.take (longestZeros gs).1) ++ [':', ':'] ++
      printGroups (gs.drop ((longestZeros gs).1 + (longestZeros gs).2))) = some gs := by
  have hspec := longestZeros_spec gs
  have htotal := congrArg List.length hspec
  rw [List.length_append, List.length_append, List.length_replicate, hlength] at htotal
  have hfront : ∀ g ∈ gs.take (longestZeros gs).1, g < 65536 :=
    fun g hg => hgs g (List.mem_of_mem_take hg)
  have hback : ∀ g ∈ gs.drop ((longestZeros gs).1 + (longestZeros gs).2), g < 65536 :=
    fun g hg => hgs g (List.mem_of_mem_drop hg)
  rw [readAll?_gap h htotal hfront hback, hspec]

/-- A mapped address is read as the groups of its IPv4 part behind `ffff`. -/
theorem readAll?_mapped (n : Nat) :
    readAll? ("::ffff:".toList ++ V4.print n) =
      some [0, 0, 0, 0, 0, 0xffff, n % 2 ^ 32 / 65536, n % 2 ^ 32 % 65536] := by
  have hgap : cutAtGap ("::ffff:".toList ++ V4.print n) = some ([], "ffff:".toList ++ V4.print n) :=
    rfl
  have htexts : groupTexts ("ffff:".toList ++ V4.print n) = ["ffff".toList, V4.print n] := by
    have hne : "ffff:".toList ++ V4.print n ≠ [] := by simp
    have hsplit : ("ffff".toList ++ ':' :: V4.print n).splitOn ':' =
        "ffff".toList :: (V4.print n).splitOn ':' :=
      List.splitOn_append_cons_self_of_not_mem (by decide) _
    rw [List.splitOn_eq_singleton (V4.colon_not_mem_print n)] at hsplit
    rw [groupTexts, if_neg hne]
    exact hsplit
  have hgroup : readGroup? "ffff".toList = some 0xffff := by decide
  simp only [readAll?, hgap, htexts, readGroups?, hgroup, V4.read?_print, Option.bind_eq_bind,
    Option.bind_some]
  rfl

theorem groups_lt (n : Nat) : ∀ g ∈ groups n, g < 65536 := by
  simp only [groups, List.forall_mem_cons]
  refine ⟨?_, ?_, ?_, ?_, ?_, ?_, ?_, ?_, by simp⟩
  all_goals exact Nat.mod_lt _ (by decide)

/-- The groups of a number make its low 128 bits. -/
theorem ofGroups_groups (n : Nat) : ofGroups (groups n) = .ofNat _ n := by
  refine Fin.ext ?_
  show _ % 2 ^ 128 = n % 2 ^ 128
  simp only [groups, List.foldl_cons, List.foldl_nil]
  omega

/-- What is written for a number is read as its low 128 bits. -/
theorem read?_print (n : Nat) : read? (print n) = some (.ofNat _ n) := by
  by_cases hmapped : n / 2 ^ 32 = 0xffff
  · have hgroups : ofGroups [0, 0, 0, 0, 0, 0xffff, n % 2 ^ 32 / 65536, n % 2 ^ 32 % 65536] =
        .ofNat _ n := by
      refine Fin.ext ?_
      show _ % 2 ^ 128 = n % 2 ^ 128
      simp only [List.foldl_cons, List.foldl_nil]
      omega
    rw [print, if_pos hmapped, read?, readAll?_mapped, Option.map_some, hgroups]
  · rw [print, if_neg hmapped]
    by_cases hgap : 1 < (longestZeros (groups n)).2
    · simp only [if_pos hgap]
      rw [read?, readAll?_longestZeros rfl (groups_lt n) hgap, Option.map_some, ofGroups_groups]
    · simp only [if_neg hgap]
      rw [read?, readAll?_groups rfl (groups_lt n), Option.map_some, ofGroups_groups]

/-- The characters of an address are hexadecimal digits, colons and points. -/
theorem mem_print {n : Nat} {c : Char} (h : c ∈ print n) :
    c = ':' ∨ c = '.' ∨ ∃ d < 16, c = Nat.digitChar d := by
  have hgroups : ∀ gs, c ∈ printGroups gs → c = ':' ∨ ∃ d < 16, c = Nat.digitChar d := by
    intro gs h
    rcases mem_intercalate h with h | ⟨t, ht, h⟩
    · exact .inl (List.mem_singleton.1 h)
    · obtain ⟨m, _, rfl⟩ := List.mem_map.1 ht
      exact .inr (mem_toDigits (by decide) h)
  by_cases hmapped : n / 2 ^ 32 = 0xffff
  · rw [print, if_pos hmapped, List.mem_append] at h
    rcases h with h | h
    · have hmark : c = ':' ∨ c = 'f' ∨ c = ':' := by simpa using h
      rcases hmark with rfl | rfl | rfl
      · exact .inl rfl
      · exact .inr (.inr ⟨15, by decide, rfl⟩)
      · exact .inl rfl
    · rcases V4.mem_print h with h | ⟨d, hd, h⟩
      · exact .inr (.inl h)
      · exact .inr (.inr ⟨d, by omega, h⟩)
  · rw [print, if_neg hmapped] at h
    have h : c = ':' ∨ ∃ gs, c ∈ printGroups gs := by
      by_cases hgap : 1 < (longestZeros (groups n)).2
      · simp only [if_pos hgap, List.mem_append, List.mem_cons, List.not_mem_nil, or_false,
          or_self] at h
        rcases h with (h | h) | h
        · exact .inr ⟨_, h⟩
        · exact .inl h
        · exact .inr ⟨_, h⟩
      · simp only [if_neg hgap] at h
        exact .inr ⟨_, h⟩
    rcases h with h | ⟨gs, h⟩
    · exact .inl h
    · rcases hgroups gs h with h | h
      · exact .inl h
      · exact .inr (.inr h)

theorem colon_mem_printGroups {gs : List Nat} (h : 1 < gs.length) : ':' ∈ printGroups gs := by
  match gs, h with
  | g :: g' :: gs, _ =>
    rw [printGroups_cons_cons]
    exact List.mem_append_right _ List.mem_cons_self

theorem colon_mem_print (n : Nat) : ':' ∈ print n := by
  by_cases hmapped : n / 2 ^ 32 = 0xffff
  · rw [print, if_pos hmapped]
    exact List.mem_append_left _ (by decide)
  · rw [print, if_neg hmapped]
    by_cases hgap : 1 < (longestZeros (groups n)).2
    · simp [if_pos hgap]
    · have hlength : (groups n).length = 8 := rfl
      simp only [if_neg hgap]
      exact colon_mem_printGroups (by omega)

/-! ## Texts that are read -/

/-- The characters that addresses are read from. -/
def IsReadable (c : Char) : Prop := c = ':' ∨ c = '.' ∨ (digitValue? 16 c).isSome = true

theorem isReadable_of_readGroup? {s : List Char} {g : Nat} (h : readGroup? s = some g) :
    ∀ c ∈ s, IsReadable c := by
  rw [readGroup?, Option.ite_none_left_eq_some] at h
  obtain ⟨-, h⟩ := h
  generalize 0 = value at h
  induction s generalizing value with
  | nil => exact List.forall_mem_nil _
  | cons c s ih =>
    rw [List.foldlM_cons, Option.bind_eq_bind, Option.bind_eq_some_iff] at h
    obtain ⟨next, hnext, h⟩ := h
    obtain ⟨d, hd, -⟩ := Option.map_eq_some_iff.1 hnext
    exact List.forall_mem_cons.2 ⟨.inr (.inr (by rw [hd]; rfl)), ih next h⟩

theorem isReadable_of_v4 {s : List Char} {n : Fin (2 ^ 32)} (h : V4.read? s = some n) :
    ∀ c ∈ s, IsReadable c := by
  intro c hc
  rcases V4.mem_of_read? h hc with hpoint | hdigit
  · exact .inr (.inl hpoint)
  · exact .inr (.inr (isSome_digitValue?_of_isDigit hdigit))

theorem isReadable_of_readGroups? {texts : List (List Char)} {gs : List Nat}
    (h : readGroups? texts = some gs) : ∀ t ∈ texts, ∀ c ∈ t, IsReadable c := by
  induction texts using readGroups?.induct generalizing gs with
  | case1 => exact List.forall_mem_nil _
  | case2 last n hlast =>
    exact List.forall_mem_singleton.2 (isReadable_of_v4 hlast)
  | case3 last hlast =>
    rw [readGroups?, hlast] at h
    obtain ⟨g, hg, -⟩ := Option.map_eq_some_iff.1 h
    exact List.forall_mem_singleton.2 (isReadable_of_readGroup? hg)
  | case4 s rest hrest ih =>
    rw [readGroups?] at h
    · simp only [Option.bind_eq_bind, Option.bind_eq_some_iff] at h
      obtain ⟨g, hg, gs', hgs, -⟩ := h
      exact List.forall_mem_cons.2 ⟨isReadable_of_readGroup? hg, ih hgs⟩
    · exact hrest

theorem isReadable_of_mapM {texts : List (List Char)} {gs : List Nat}
    (h : texts.mapM readGroup? = some gs) : ∀ t ∈ texts, ∀ c ∈ t, IsReadable c := by
  intro t ht
  obtain ⟨g, hg⟩ := exists_of_mapM_eq_some h t ht
  exact isReadable_of_readGroup? hg

/-- A text is cut at two colons. -/
theorem cutAtGap_eq_some {s front back : List Char} (h : cutAtGap s = some (front, back)) :
    s = front ++ ':' :: ':' :: back := by
  induction s using cutAtGap.induct generalizing front with
  | case1 r =>
    rw [cutAtGap, Option.some.injEq, Prod.mk.injEq] at h
    rw [← h.1, ← h.2]
    rfl
  | case2 => cases h
  | case3 c r hgap ih =>
    rw [cutAtGap] at h
    · obtain ⟨⟨front', back'⟩, hcut, heq⟩ := Option.map_eq_some_iff.1 h
      obtain ⟨rfl, rfl⟩ := Prod.mk.inj heq
      rw [ih hcut]
      rfl
    · exact hgap

theorem isReadable_of_splitOn {s : List Char} (h : ∀ t ∈ s.splitOn ':', ∀ c ∈ t, IsReadable c) :
    ∀ c ∈ s, IsReadable c := by
  intro c hc
  rcases eq_or_mem_splitOn hc with hc | ⟨t, ht, hc⟩
  · exact .inl hc
  · exact h t ht c hc

theorem isReadable_of_groupTexts {s : List Char}
    (h : ∀ t ∈ groupTexts s, ∀ c ∈ t, IsReadable c) : ∀ c ∈ s, IsReadable c := by
  by_cases hs : s = []
  · rw [hs]
    exact List.forall_mem_nil _
  · rw [groupTexts, if_neg hs] at h
    exact isReadable_of_splitOn h

/-- A text that is read as an address is made of hexadecimal digits, colons and points. -/
theorem mem_of_read? {s : List Char} {n : Fin (2 ^ 128)} (h : read? s = some n) {c : Char}
    (hc : c ∈ s) : IsReadable c := by
  rw [read?, Option.map_eq_some_iff] at h
  obtain ⟨gs, h, -⟩ := h
  unfold readAll? at h
  split at h
  · simp only [Option.bind_eq_bind, Option.bind_eq_some_iff] at h
    obtain ⟨gs', hgs, -⟩ := h
    exact isReadable_of_splitOn (isReadable_of_readGroups? hgs) c hc
  · rename_i front back hcut
    simp only [Option.bind_eq_bind, Option.bind_eq_some_iff] at h
    obtain ⟨fs, hfs, bs, hbs, -⟩ := h
    rw [cutAtGap_eq_some hcut, List.mem_append, List.mem_cons, List.mem_cons] at hc
    rcases hc with hc | rfl | rfl | hc
    · exact isReadable_of_groupTexts (isReadable_of_mapM hfs) c hc
    · exact .inl rfl
    · exact .inl rfl
    · exact isReadable_of_groupTexts (isReadable_of_readGroups? hbs) c hc

end RpkiOverlap.Address.V6
