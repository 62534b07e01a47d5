import StorageCalls.Files

namespace StorageCalls

theorem Node.find?_append (names more : List String) (node : Node) :
    node.find? (names ++ more) = (node.find? names).bind (find? more) := by
  induction names generalizing node with
  | nil => rfl
  | cons name names ih =>
    cases node with
    | file content => rfl
    | directory entries =>
      rw [List.cons_append, find?, find?, Option.bind_assoc]
      exact congrArg _ (funext ih)

namespace Disk

open Text

def LeadsDown (segment : String) : Prop := segment ≠ ".." ∧ (utf8Bytes segment).length ≤ 255

instance (segment : String) : Decidable (LeadsDown segment) :=
  inferInstanceAs (Decidable (_ ∧ _))

variable {d : Disk} {place last : List String} {name : String} {entries : List (String × Node)}

theorem step_of_directory (hdown : LeadsDown name)
    (h : d.root.find? place = some (.directory entries)) :
    d.step place name =
      if !isName name then .ok place
      else if (entries.lookup name).isSome then .ok (place ++ [name]) else .error .notFound := by
  simp only [step, h, if_neg hdown.1, if_neg (Nat.not_lt.2 hdown.2)]

theorem step_eq_ok (hdown : LeadsDown name) (h : d.step place name = .ok last) :
    last = place ++ [name].filter isName := by
  cases hplace : d.root.find? place with
  | none =>
    simp only [step, hplace] at h
    cases h
  | some node =>
    cases node with
    | file content =>
      simp only [step, hplace] at h
      cases h
    | directory entries =>
      rw [step_of_directory hdown hplace] at h
      cases hname : isName name with
      | false =>
        rw [hname] at h
        cases h
        simp [hname]
      | true =>
        rw [hname] at h
        cases hl : entries.lookup name <;> rw [hl] at h <;> cases h
        simp [hname]

theorem exists_directory {node : Node} {names : List String}
    (h : d.root.find? (place ++ name :: names) = some node) :
    ∃ entries, d.root.find? place = some (.directory entries) ∧
      (entries.lookup name).bind (Node.find? names) = some node := by
  rw [Node.find?_append] at h
  obtain ⟨here, hplace, hnode⟩ := Option.bind_eq_some_iff.1 h
  cases here with
  | file content => cases hnode
  | directory entries => exact ⟨entries, hplace, hnode⟩

theorem step_to_name {node : Node} {names : List String} (hdown : LeadsDown name)
    (hname : isName name = true) (h : d.root.find? (place ++ name :: names) = some node) :
    d.step place name = .ok (place ++ [name]) := by
  obtain ⟨entries, hplace, hnode⟩ := exists_directory h
  obtain ⟨child, hchild, -⟩ := Option.bind_eq_some_iff.1 hnode
  rw [step_of_directory hdown hplace, hname, hchild]
  rfl

theorem walk_eq_ok {path : List String} (hdown : ∀ name ∈ path, LeadsDown name)
    (h : path.foldlM d.step place = .ok last) : last = place ++ path.filter isName := by
  induction path generalizing place with
  | nil =>
    cases h
    exact (List.append_nil _).symm
  | cons name path ih =>
    rw [List.foldlM_cons] at h
    cases hstep : d.step place name with
    | error fault =>
      rw [hstep] at h
      cases h
    | ok next =>
      rw [hstep] at h
      have hnext := step_eq_ok (hdown name List.mem_cons_self) hstep
      rw [ih (fun name hmem => hdown name (List.mem_cons_of_mem _ hmem)) h, hnext,
        List.append_assoc, ← List.filter_append, List.singleton_append]

/-- All places on the way to a directory are directories. -/
theorem walk_to_directory {path : List String} (hdown : ∀ name ∈ path, LeadsDown name)
    (h : d.root.find? (place ++ path.filter isName) = some (.directory entries)) :
    path.foldlM d.step place = .ok (place ++ path.filter isName) := by
  induction path generalizing place with
  | nil =>
    rw [List.filter_nil, List.append_nil]
    rfl
  | cons name path ih =>
    have hrest := fun name hmem => hdown name (List.mem_cons_of_mem _ hmem)
    rw [List.foldlM_cons]
    cases hname : isName name with
    | true =>
      rw [List.filter_cons_of_pos hname] at h ⊢
      rw [step_to_name (hdown name List.mem_cons_self) hname h]
      rw [List.append_cons place name (path.filter isName)] at h ⊢
      exact ih hrest h
    | false =>
      rw [List.filter_cons_of_neg (by simp [hname])] at h ⊢
      obtain ⟨above, habove⟩ : ∃ above, d.root.find? place = some (.directory above) := by
        cases hnames : path.filter isName with
        | nil => exact ⟨entries, by rwa [hnames, List.append_nil] at h⟩
        | cons first names =>
          rw [hnames] at h
          exact (exists_directory h).imp fun _ h => h.1
      have hstays : d.step place name = .ok place := by
        rw [step_of_directory (hdown name List.mem_cons_self) habove, hname]
        rfl
      rw [hstays]
      exact ih hrest h

theorem readAt_eq_ok_iff {bytes : List UInt8} :
    d.readAt place = .ok bytes ↔ d.root.find? place = some (.file (.ok bytes)) := by
  unfold readAt
  split
  · next hfile => simp [hfile]
  · next hdirectory => simp [hdirectory]
  · next hnone => simp [hnone]

theorem read_eq_walk {path : String} (hclean : '\x00' ∉ path.toList) (hsome : path ≠ "")
    (hshort : (utf8Bytes path).length < 4096) :
    d.read path = (segments path).foldlM d.step (d.start path) >>= d.readAt := by
  have hnul : path.toList.contains '\x00' = false := by simpa using hclean
  have hempty : path.isEmpty = false := by simpa using hsome
  simp only [read, hnul, hempty, if_neg (Nat.not_le.2 hshort), Bool.false_eq_true, if_false]

/-- A path that never leads back up, with a name at its end, reads the file at its names, from the
root if it starts with a slash and else from the working directory. -/
theorem read_eq_ok_iff {path : String} {before : List String} {bytes : List UInt8}
    (hclean : '\x00' ∉ path.toList) (hshort : (utf8Bytes path).length < 4096)
    (hsegments : segments path = before ++ [name]) (hname : isName name = true)
    (hdown : ∀ name ∈ segments path, LeadsDown name) : d.read path = .ok bytes ↔
      d.root.find? (d.start path ++ names path) = some (.file (.ok bytes)) := by
  have hlast : names path = before.filter isName ++ [name] := by
    rw [names, hsegments, List.filter_append, List.filter_cons_of_pos hname, List.filter_nil]
  rw [hsegments] at hdown
  have hbefore := fun name hmem => hdown name (List.mem_append_left _ hmem)
  have hend := hdown name (List.mem_append_right _ List.mem_cons_self)
  have hsome : path ≠ "" := by
    rintro rfl
    have hnames := congrArg List.getLast? hsegments
    rw [List.getLast?_concat] at hnames
    obtain rfl : "" = name := Option.some.inj hnames
    cases hname
  rw [read_eq_walk hclean hsome hshort]
  constructor
  · intro h
    cases hwalk : (segments path).foldlM d.step (d.start path) with
    | error fault =>
      rw [hwalk] at h
      cases h
    | ok last =>
      rw [hwalk] at h
      rw [hsegments] at hwalk
      have hplace := walk_eq_ok hdown hwalk
      rw [List.filter_append, List.filter_cons_of_pos hname, List.filter_nil, ← hlast] at hplace
      exact hplace ▸ readAt_eq_ok_iff.1 h
  · intro hfile
    have hread := readAt_eq_ok_iff.2 hfile
    rw [hlast, ← List.append_assoc] at hfile hread
    obtain ⟨entries, hdirectory, -⟩ := exists_directory hfile
    rw [hsegments, List.foldlM_append, walk_to_directory hbefore hdirectory]
    have hstep : [name].foldlM d.step (d.start path ++ before.filter isName) =
        .ok (d.start path ++ before.filter isName ++ [name]) :=
      (bind_pure _).trans (step_to_name hend hname hfile)
    exact (congrArg (· >>= d.readAt) hstep).trans hread

end Disk

end StorageCalls
