import StateHolders.Files.World

/-!
# Files that were written

A file is found where it was written, under the path by which it was written, and, from a working
directory that has a place, also under the absolute path that this path stands for.
-/

namespace StateHolders

namespace Path

theorem segments_ne_nil (p : Path) : p.segments ≠ [] := by
  cases p with
  | nil => exact List.cons_ne_nil _ _
  | cons b rest =>
    rw [segments]
    split
    · exact List.cons_ne_nil _ _
    · split <;> exact List.cons_ne_nil _ _

/-- A slash between two paths keeps their parts. -/
theorem segments_append (a b : Path) :
    segments (a ++ slash :: b) = segments a ++ segments b := by
  induction a with
  | nil => simp [segments]
  | cons c a ih =>
    by_cases hc : c = slash
    · subst hc
      simp [segments, ih]
    · obtain ⟨first, more, heq⟩ := List.exists_cons_of_ne_nil (segments_ne_nil a)
      simp [segments, hc, ih, heq]

/-- A relative path is seen from a directory by putting it behind the path of the directory, with a
slash between them if there is none. -/
theorem join_eq_append {base p : Path} (hbase : base ≠ []) (hp : p.isAbsolute = false) :
    ∃ between, (between = [] ∨ between = [slash]) ∧ base.join p = base ++ between ++ p := by
  have hempty : base.isEmpty = false := by simpa using hbase
  rw [join, hp, hempty]
  split
  · contradiction
  · split
    · exact ⟨[], .inl rfl, by simp⟩
    · exact ⟨[slash], .inr rfl, rfl⟩

/-- The parts of a path seen from a directory come after those of the directory, of which an empty
one at the end is left out. -/
theorem segments_join {base p : Path} (hbase : base ≠ []) (hp : p.isAbsolute = false) :
    ∃ way, (base.segments = way ∨ base.segments = way ++ [[]]) ∧
      (base.join p).segments = way ++ p.segments := by
  obtain ⟨init, last, rfl⟩ : ∃ init last, base = init ++ [last] :=
    ⟨base.dropLast, base.getLast hbase, (List.dropLast_concat_getLast hbase).symm⟩
  by_cases hlast : last = slash
  · subst hlast
    refine ⟨segments init, .inr (segments_append init []), ?_⟩
    have hjoin : join (init ++ [slash]) p = init ++ slash :: p := by
      simp [join, hp]
    rw [hjoin, segments_append]
  · refine ⟨segments (init ++ [last]), .inl rfl, ?_⟩
    have hjoin : join (init ++ [last]) p = (init ++ [last]) ++ slash :: p := by
      simp [join, hp, hlast]
    rw [hjoin, segments_append]

end Path

namespace World

variable {w : World}

/-! ## Following names -/

theorem start_eq_ok_iff {p : Path} {s : Standing} :
    w.start p = .ok s ↔ p ≠ [] ∧ p.contains 0 = false ∧ p.length < maxPath ∧
      s = if p.isAbsolute then .root else w.directory := by
  by_cases hempty : p = []
  · simp [start, hempty]
  · by_cases hnul : p.contains 0 = true
    · simp only [start, hempty, if_false, hnul, if_true]
      simp
    · have hnul' : p.contains 0 = false := by simpa using hnul
      by_cases hlong : maxPath ≤ p.length
      · have hnot : ¬p.length < maxPath := by omega
        simp only [start, hempty, hnul', hlong, if_false, if_true, Bool.false_eq_true]
        simp [hnot]
      · have hlt : p.length < maxPath := by omega
        simp only [start, hempty, hnul', hlong, hlt, if_false, Bool.false_eq_true]
        split <;> simp [hempty, eq_comm]

theorem follow_cons_eq_ok_iff {s t : Standing} {n : Name} {rest : List Name} :
    w.follow s (n :: rest) = .ok t ↔
      w.holds? s = some .directory ∧ ∃ next, enter s n = .ok next ∧ w.follow next rest = .ok t := by
  rw [follow]
  cases hs : w.holds? s with
  | none => simp
  | some node =>
    cases node with
    | file content => simp
    | directory =>
      cases hn : enter s n with
      | error f => simp
      | ok next => simp

/-- Following names one after the other. -/
theorem follow_append_eq_ok_iff {s t : Standing} {before after : List Name} :
    w.follow s (before ++ after) = .ok t ↔
      ∃ between, w.follow s before = .ok between ∧ w.follow between after = .ok t := by
  induction before generalizing s with
  | nil => simp [follow]
  | cons n before ih =>
    simp only [List.cons_append, follow_cons_eq_ok_iff, ih]
    constructor
    · rintro ⟨hs, next, hn, between, hbetween, ht⟩
      exact ⟨between, ⟨hs, next, hn, hbetween⟩, ht⟩
    · rintro ⟨between, ⟨hs, next, hn, hbetween⟩, ht⟩
      exact ⟨hs, next, hn, between, hbetween, ht⟩

/-- Names lead where they led in a world that keeps the directories. -/
theorem follow_of_directories {w' : World}
    (h : ∀ s, w.holds? s = some .directory → w'.holds? s = some .directory) {s t : Standing}
    {names : List Name} (ht : w.follow s names = .ok t) : w'.follow s names = .ok t := by
  induction names generalizing s with
  | nil => exact ht
  | cons n names ih =>
    rw [follow_cons_eq_ok_iff] at ht ⊢
    obtain ⟨hs, next, hn, ht⟩ := ht
    exact ⟨h s hs, next, hn, ih ht⟩

theorem enter_here (s : Standing) : enter s Path.here = .ok s := rfl

/-- A place that holds no directory can be filled without harm to any directory. -/
theorem holds?_put_of_directory {l : Location} (hl : w.at? l ≠ some .directory) (node : Node)
    {s : Standing} (hs : w.holds? s = some .directory) :
    (w.put l node).holds? s = some .directory := by
  unfold holds? at hs ⊢
  cases hplace : s.place? with
  | none => rfl
  | some l' =>
    rw [hplace] at hs
    have hne : l ≠ l' := by
      rintro rfl
      exact hl hs
    dsimp only at hs ⊢
    rw [at?] at hs ⊢
    rw [put, Dictionary.get?_set_of_ne hne]
    exact hs

theorem locate_eq_ok_iff {p : Path} {t : Standing} {node : Node} :
    w.locate p = .ok (t, node) ↔ ∃ s, w.start p = .ok s ∧ w.follow s p.segments = .ok t ∧
      w.holds? t = some node := by
  rw [locate]
  constructor
  · intro h
    split at h
    case h_1 => cases h
    case h_2 s hstart =>
      split at h
      case h_1 => cases h
      case h_2 t' hfollow =>
        split at h
        case h_1 node' hholds =>
          obtain ⟨rfl, rfl⟩ := Prod.mk.inj (Except.ok.inj h)
          exact ⟨s, hstart, hfollow, hholds⟩
        case h_2 => cases h
  · rintro ⟨s, hstart, hfollow, hholds⟩
    simp only [hstart, hfollow, hholds]

/-! ## The place of a file -/

/-- Names lead from a directory to the place of a file: some lead to the directory that has it or
can have it, and one more is the name of the file there. -/
structure LeadsToFile (w : World) (s : Standing) (way : List Name) (last : Name)
    (parent : Location) : Prop where
  /-- The last name is the name of something in the directory. -/
  named : last ∉ [[], Path.here, Path.above]
  /-- It is not too long. -/
  short : last.length ≤ maxName
  /-- The other names lead to a place. -/
  follows : w.follow s way = .ok ⟨parent, 0⟩
  /-- There is a directory at that place. -/
  directory : w.at? parent = some .directory
  /-- The file would not take the place of a directory. -/
  free : w.at? (parent ++ [last]) ≠ some .directory

theorem dropEmptyEnd_concat (names : List Name) {last : Name} (h : last ≠ []) :
    dropEmptyEnd (names ++ [last]) = names ++ [last] := by
  simp [dropEmptyEnd, h]

/-- What is left without empty names at the end is as long as before only if the last name was not
empty. -/
theorem eq_concat_of_dropEmptyEnd {names : List Name} {last : Name}
    (hlast : (dropEmptyEnd names).getLast? = some last)
    (hlength : ¬(dropEmptyEnd names).length < names.length) :
    names = (dropEmptyEnd names).dropLast ++ [last] ∧ last ≠ [] := by
  have hprefix : dropEmptyEnd names <+: names := by
    rw [dropEmptyEnd, ← List.reverse_suffix, List.reverse_reverse]
    exact List.dropWhile_suffix _
  have heq : dropEmptyEnd names = names := hprefix.eq_of_length_le (by omega)
  refine ⟨?_, ?_⟩
  · rw [heq] at hlast ⊢
    obtain ⟨init, rfl⟩ := List.getLast?_eq_some_iff.mp hlast
    rw [List.dropLast_concat]
  · rintro rfl
    have hhead := List.head?_dropWhile_not List.isEmpty names.reverse
    rw [dropEmptyEnd, List.getLast?_reverse] at hlast
    simp [hlast] at hhead

/-- The name of something leads from a directory that is still there to a place in it. -/
theorem enter_eq_ok_iff {s t : Standing} {n : Name} (hn : n ∉ [[], Path.here, Path.above]) :
    enter s n = .ok t ↔ s.removed = 0 ∧ n.length ≤ maxName ∧ t = ⟨s.location ++ [n], 0⟩ := by
  simp only [List.mem_cons, List.not_mem_nil, or_false, not_or] at hn
  obtain ⟨hempty, hhere, habove⟩ := hn
  unfold enter Standing.enter?
  simp only [hempty, hhere, habove, or_self, if_false]
  by_cases hremoved : s.removed = 0
  · by_cases hlong : maxName < n.length
    · simp [hremoved, hlong, Nat.not_le_of_lt hlong]
    · simp [hremoved, hlong, Nat.le_of_not_lt hlong, eq_comm]
  · simp [hremoved]

/-- The place of the name of a file in a directory. -/
theorem fileIn_eq_ok_iff {s : Standing} {n : Name} {l : Location}
    (hn : n ∉ [[], Path.here, Path.above]) :
    w.fileIn s n = .ok l ↔ s.removed = 0 ∧ n.length ≤ maxName ∧ l = s.location ++ [n] ∧
      w.at? l ≠ some .directory := by
  rw [fileIn]
  cases henter : enter s n with
  | error f =>
    simp only [reduceCtorEq, false_iff]
    rintro ⟨hremoved, hshort, -, -⟩
    rw [(enter_eq_ok_iff hn).mpr ⟨hremoved, hshort, rfl⟩] at henter
    cases henter
  | ok t =>
    obtain ⟨hremoved, hshort, rfl⟩ := (enter_eq_ok_iff hn).mp henter
    dsimp only
    split
    case h_1 hdirectory =>
      simp only [reduceCtorEq, false_iff]
      rintro ⟨-, -, rfl, hfree⟩
      exact hfree hdirectory
    case h_2 hfree =>
      simp only [Except.ok.injEq]
      constructor
      · rintro rfl
        exact ⟨hremoved, hshort, rfl, hfree⟩
      · rintro ⟨-, -, rfl, -⟩
        rfl

/-- Staying where one is asks for a directory, and leads nowhere else. -/
theorem follow_concat_here_eq_ok_iff {s t : Standing} {way : List Name} :
    w.follow s (way ++ [Path.here]) = .ok t ↔
      w.follow s way = .ok t ∧ w.holds? t = some .directory := by
  have hstay (between : Standing) : w.follow between [Path.here] = .ok t ↔
      between = t ∧ w.holds? between = some .directory := by
    rw [follow_cons_eq_ok_iff, enter_here]
    constructor
    · rintro ⟨hdirectory, next, hnext, ht⟩
      obtain rfl := Except.ok.inj hnext
      exact ⟨Except.ok.inj ht, hdirectory⟩
    · rintro ⟨rfl, hdirectory⟩
      exact ⟨hdirectory, _, rfl, rfl⟩
  simp only [follow_append_eq_ok_iff, hstay]
  constructor
  · rintro ⟨between, hway, rfl, hdirectory⟩
    exact ⟨hway, hdirectory⟩
  · rintro ⟨hway, hdirectory⟩
    exact ⟨t, hway, rfl, hdirectory⟩

/-- A path puts a file where its names lead. -/
theorem target_eq_ok_iff {p : Path} {l : Location} :
    w.target p = .ok l ↔ ∃ s way last parent, w.start p = .ok s ∧ p.segments = way ++ [last] ∧
      w.LeadsToFile s way last parent ∧ l = parent ++ [last] := by
  rw [target]
  cases hstart : w.start p with
  | error f => simp
  | ok s =>
    dsimp only
    constructor
    · intro h
      cases hlast : (dropEmptyEnd p.segments).getLast? with
      | none =>
        rw [hlast] at h
        cases h
      | some last =>
        rw [hlast] at h
        dsimp only at h
        cases hfollow : w.follow s ((dropEmptyEnd p.segments).dropLast ++ [Path.here]) with
        | error f =>
          rw [hfollow] at h
          cases h
        | ok t =>
          rw [hfollow] at h
          dsimp only at h
          split at h
          case isTrue => cases h
          case isFalse hnamed =>
            simp only [not_or] at hnamed
            obtain ⟨hhere, habove, hlength⟩ := hnamed
            obtain ⟨hnames, hempty⟩ := eq_concat_of_dropEmptyEnd hlast hlength
            have hnamed : last ∉ [[], Path.here, Path.above] := by
              simp [hempty, hhere, habove]
            obtain ⟨hway, hdirectory⟩ := follow_concat_here_eq_ok_iff.mp hfollow
            obtain ⟨hremoved, hshort, rfl, hfree⟩ := (fileIn_eq_ok_iff hnamed).mp h
            obtain ⟨parent, removed⟩ := t
            obtain rfl : removed = 0 := hremoved
            exact ⟨s, _, last, parent, rfl, hnames, ⟨hnamed, hshort, hway, hdirectory, hfree⟩, rfl⟩
    · rintro ⟨s', way, last, parent, hs, hnames, hleads, rfl⟩
      obtain rfl := Except.ok.inj hs
      have hnamed := hleads.named
      simp only [List.mem_cons, List.not_mem_nil, or_false, not_or] at hnamed
      obtain ⟨hempty, hhere, habove⟩ := hnamed
      have hfollow : w.follow s (way ++ [Path.here]) = .ok ⟨parent, 0⟩ :=
        follow_concat_here_eq_ok_iff.mpr ⟨hleads.follows, hleads.directory⟩
      simp only [hnames, dropEmptyEnd_concat way hempty, List.getLast?_concat,
        List.dropLast_concat, hfollow, hhere, habove, Nat.lt_irrefl, or_self, if_false]
      exact (fileIn_eq_ok_iff hleads.named).mpr ⟨rfl, hleads.short, rfl, hleads.free⟩

/-- Where names lead to the place of a file, what is put there is found. -/
theorem locate_put {p : Path} {l : Location} (h : w.target p = .ok l) (content : List UInt8) :
    (w.put l (.file content)).locate p = .ok (⟨l, 0⟩, .file content) := by
  obtain ⟨s, way, last, parent, hstart, hnames, hleads, rfl⟩ := target_eq_ok_iff.mp h
  have hkeeps : ∀ s, w.holds? s = some .directory →
      (w.put (parent ++ [last]) (.file content)).holds? s = some .directory :=
    fun s => holds?_put_of_directory hleads.free (.file content)
  have hfollow : (w.put (parent ++ [last]) (.file content)).follow s p.segments =
      .ok ⟨parent ++ [last], 0⟩ := by
    rw [hnames, follow_append_eq_ok_iff]
    refine ⟨⟨parent, 0⟩, follow_of_directories hkeeps hleads.follows, ?_⟩
    rw [follow_cons_eq_ok_iff]
    exact ⟨hkeeps _ hleads.directory, _,
      (enter_eq_ok_iff hleads.named).mpr ⟨rfl, hleads.short, rfl⟩, rfl⟩
  have hholds : (w.put (parent ++ [last]) (.file content)).holds? ⟨parent ++ [last], 0⟩ =
      some (.file content) := by
    simp [holds?, Standing.place?, at?, put]
  exact locate_eq_ok_iff.mpr ⟨s, hstart, hfollow, hholds⟩

/-- Writing fills the place that the path names. -/
theorem write_of_target {p : Path} {l : Location} (h : w.target p = .ok l)
    (content : List UInt8) : w.write p content = (w.put l (.file content), .ok ()) := by
  rw [write, h]

/-- A file that cannot be written leaves everything as it was. -/
theorem fst_write_of_error {p : Path} {content : List UInt8} {f : Failure}
    (h : (w.write p content).2 = .error f) : (w.write p content).1 = w := by
  unfold write at h ⊢
  cases htarget : w.target p with
  | error f => rfl
  | ok l =>
    rw [htarget] at h
    cases h

/-- What a path leads to after a file was put at the place that it names. -/
theorem content?_put {p : Path} {l : Location} (h : w.target p = .ok l) (content : List UInt8) :
    (w.put l (.file content)).content? p = some content := by
  rw [content?, node, locate_put h]
  rfl

theorem pathExists_of_content? {p : Path} {content : List UInt8}
    (h : w.content? p = some content) : w.pathExists p = true := by
  rw [content?] at h
  rw [pathExists]
  cases hnode : w.node p with
  | error f => simp [hnode] at h
  | ok node => rfl

/-! ## Paths seen from the working directory -/

/-- A path names the same file when it is seen from the path of the working directory, if this path
leads to the working directory and the two together are not too long. -/
theorem target_join {base p : Path} {l : Location}
    (hbase : w.locate base = .ok (w.directory, .directory)) (hroot : base.isAbsolute = true)
    (hp : p.isAbsolute = false) (hlength : (base.join p).length < maxPath)
    (h : w.target p = .ok l) : w.target (base.join p) = .ok l := by
  obtain ⟨s, way, last, parent, hstart, hnames, hleads, rfl⟩ := target_eq_ok_iff.mp h
  obtain ⟨s₀, hstart₀, hfollow₀, -⟩ := locate_eq_ok_iff.mp hbase
  obtain ⟨hpne, hpnul, -, rfl⟩ := start_eq_ok_iff.mp hstart
  obtain ⟨hbne, hbnul, -, rfl⟩ := start_eq_ok_iff.mp hstart₀
  simp only [hp, hroot, if_true, Bool.false_eq_true, if_false] at hfollow₀ hleads
  obtain ⟨lead, hlead, hsegments⟩ := Path.segments_join hbne hp
  have hfollow : w.follow .root lead = .ok w.directory := by
    rcases hlead with hlead | hlead
    · rwa [hlead] at hfollow₀
    · -- The empty name after the last slash leads nowhere else.
      rw [hlead, follow_append_eq_ok_iff] at hfollow₀
      obtain ⟨between, hbetween, hstay⟩ := hfollow₀
      obtain ⟨-, next, hnext, hend⟩ := follow_cons_eq_ok_iff.mp hstay
      obtain rfl := Except.ok.inj hnext
      rwa [← Except.ok.inj hend]
  have hstart' : w.start (base.join p) = .ok .root := by
    have hslash : (0 : UInt8) ≠ Path.slash := by decide
    obtain ⟨between, hbetween, hjoin⟩ := Path.join_eq_append hbne hp
    refine start_eq_ok_iff.mpr ⟨?_, ?_, hlength, ?_⟩
    · simp [hjoin, hbne]
    · rw [List.contains_eq_mem, decide_eq_false_iff_not] at hpnul hbnul ⊢
      rcases hbetween with rfl | rfl
      · simp [hjoin, hpnul, hbnul]
      · simp [hjoin, hpnul, hbnul, hslash]
    · obtain ⟨first, more, rfl⟩ := List.exists_cons_of_ne_nil hbne
      have habsolute : (Path.join (first :: more) p).isAbsolute = true := by
        rw [hjoin]
        exact hroot
      rw [if_pos habsolute]
  refine target_eq_ok_iff.mpr ⟨.root, lead ++ way, last, parent, hstart', ?_, ?_, rfl⟩
  · rw [hsegments, hnames, List.append_assoc]
  · exact ⟨hleads.named, hleads.short, follow_append_eq_ok_iff.mpr ⟨_, hfollow, hleads.follows⟩,
      hleads.directory, hleads.free⟩

end World

end StateHolders
