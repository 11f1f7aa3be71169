/-
Which cell a target means, after any calls on a directory.

A directory answers from three tables, and each call does something to
each of them: one lemma per table says what (`lookup_tags_perform`,
`lookup_urls_perform`, `isKnown_perform`). So every table is told by the
calls alone, by induction on the calls from the last one back, and with
the tables what a target resolves to. `Means` is that law without a
directory: a name that was added means its own cell, any other tag means
the cell whose encoded identifier it is, if a call introduced the cell,
and a URL means the cell that it was mapped to last.
-/
import CellSync.Proofs.Directory
import CellSync.Proofs.Octets.Canonical
import Mathlib.Data.List.Induction

namespace CellSync.Directory

-- ================================================================== calls

/-- A call that changes a directory. -/
inductive Call where
  | addCell (name : String)
  | addUrl (url : String) (cell : TagId)
  | record (tx : Tx)
deriving DecidableEq

/-- The directory after a call. -/
def perform (d : Directory) : Call → Directory
  | .addCell name => (d.addCell name).2
  | .addUrl url cell => d.addUrl url cell
  | .record tx => d.record tx

/-- The directory after some calls. -/
def after (d : Directory) (calls : List Call) : Directory := calls.foldl perform d

theorem after_append (d : Directory) (calls more : List Call) :
    d.after (calls ++ more) = (d.after calls).after more := List.foldl_append

/-- Whether a call makes a cell known: it adds the cell under a name, maps a URL to
it, or records a commit with an op for it. -/
def Call.Introduces (cell : TagId) : Call → Prop
  | .addCell name => TagId.ofName name = cell
  | .addUrl _ mapped => mapped = cell
  | .record tx => ∃ op ∈ tx.ops, op.target? = some cell

/-- Whether a call among these makes a cell known. -/
def Introduced (calls : List Call) (cell : TagId) : Prop := ∃ call ∈ calls, call.Introduces cell

/-- Whether these calls map a URL to a cell, and to no other afterwards. -/
def LastMapped (calls : List Call) (url : String) (cell : TagId) : Prop :=
  ∃ before later, calls = before ++ .addUrl url cell :: later ∧ ∀ other, .addUrl url other ∉ later

/-- What a target means after some calls on a new directory. -/
inductive Means (calls : List Call) : Target → TagId → Prop
  | name {name : String} {cell : TagId} (hadded : .addCell name ∈ calls)
      (hcell : cell = .ofName name) : Means calls (.tag name) cell
  /-- The text of an identifier, if it is not a name as well. -/
  | text {text : String} {cell : TagId} (hother : .addCell text ∉ calls)
      (htext : text = cell.encode) (hknown : Introduced calls cell) : Means calls (.tag text) cell
  | url {url : String} {cell : TagId} (hmapped : LastMapped calls url cell) :
      Means calls (.url url) cell

-- ================================================================= tables

/-- Whether there is a log for a cell. -/
def isKnown (d : Directory) (cell : TagId) : Prop := (d.log.lookup cell).isSome = true

theorem lookup_put (table : List (String × TagId)) (name key : String) (cell : TagId) :
    (put table name cell).lookup key = if key = name then some cell else table.lookup key := by
  rw [put, lookup_concat, lookup_filter_ne]
  by_cases hkey : key = name
  · simp [hkey]
  · simp [hkey]

@[simp] theorem tags_know (d : Directory) (cell : TagId) : (d.know cell).tags = d.tags := by
  unfold know
  split <;> rfl

@[simp] theorem urls_know (d : Directory) (cell : TagId) : (d.know cell).urls = d.urls := by
  unfold know
  split <;> rfl

/-- Getting to know a cell makes that cell known and no other. -/
theorem isKnown_know (d : Directory) (cell other : TagId) :
    (d.know cell).isKnown other ↔ other = cell ∨ d.isKnown other := by
  by_cases hother : other = cell
  · subst hother
    simp [isKnown, lookup_know d other]
  · have hsame : (d.know cell).log.lookup other = d.log.lookup other := by
      unfold know
      split
      · rfl
      · simp [lookup_concat, hother]
    simp [isKnown, hsame, hother]

/-- Appending to a log changes no other table. -/
theorem tables_append (tx : Tx) (d : Directory) (cell : TagId) :
    (append tx d cell).tags = d.tags ∧ (append tx d cell).urls = d.urls := by
  simp [append]

theorem isKnown_append (tx : Tx) (d : Directory) (cell other : TagId) :
    (append tx d cell).isKnown other ↔ other = cell ∨ d.isKnown other := by
  have hlookup : (append tx d cell).log.lookup other
      = if other = cell then ((d.know cell).log.lookup other).map (· ++ [tx])
        else (d.know cell).log.lookup other := by
    rw [← lookup_map_update]
    rfl
  rw [← isKnown_know d cell other, isKnown, hlookup]
  by_cases hother : other = cell
  · simp [isKnown, hother]
  · simp [isKnown, hother]

/-- A commit makes the cells known that it is for, and changes no name and no URL. -/
theorem record_effect (d : Directory) (tx : Tx) :
    (d.record tx).tags = d.tags ∧ (d.record tx).urls = d.urls
      ∧ ∀ cell, (d.record tx).isKnown cell ↔ cell ∈ tx.targets ∨ d.isKnown cell := by
  rw [record]
  generalize tx.targets = cells
  induction cells generalizing d with
  | nil => simp
  | cons cell cells ih =>
      obtain ⟨htags, hurls, hknown⟩ := ih (append tx d cell)
      obtain ⟨htags', hurls'⟩ := tables_append tx d cell
      rw [List.foldl_cons]
      refine ⟨htags.trans htags', hurls.trans hurls', fun other => ?_⟩
      rw [hknown, isKnown_append, List.mem_cons]
      tauto

-- =============================================================== one call

variable (d : Directory) (call : Call)

/-- A name is added with its own cell, and nothing else changes what it means. -/
theorem lookup_tags_perform (name : String) :
    (d.perform call).tags.lookup name
      = if call = .addCell name then some (.ofName name) else d.tags.lookup name := by
  cases call with
  | addCell added =>
      show (((_ : Directory).know _).tags).lookup name = _
      rw [tags_know, lookup_put]
      by_cases hname : name = added
      · simp [hname]
      · simp [hname, Ne.symm hname]
  | addUrl url cell => simp [perform, addUrl]
  | record tx => simp [perform, record_effect]

/-- A URL means another cell only by being mapped to it. -/
theorem lookup_urls_perform_of_ne {url : String} (h : ∀ cell, call ≠ .addUrl url cell) :
    (d.perform call).urls.lookup url = d.urls.lookup url := by
  cases call with
  | addCell name => simp [perform, addCell]
  | addUrl mapped cell =>
      have hother : url ≠ mapped := by
        rintro rfl
        exact h cell rfl
      simp [perform, addUrl, lookup_put, hother]
  | record tx => simp [perform, record_effect]

theorem lookup_urls_perform (url : String) (cell : TagId) :
    (d.perform (.addUrl url cell)).urls.lookup url = some cell := by
  simp [perform, addUrl, lookup_put]

/-- A cell is known once a call introduced it. -/
theorem isKnown_perform (cell : TagId) :
    (d.perform call).isKnown cell ↔ call.Introduces cell ∨ d.isKnown cell := by
  cases call with
  | addCell name =>
      show ((_ : Directory).know (.ofName name)).isKnown cell ↔ _
      rw [isKnown_know, eq_comm]
      rfl
  | addUrl url mapped =>
      show ((_ : Directory).know mapped).isKnown cell ↔ _
      rw [isKnown_know, eq_comm]
      rfl
  | record tx =>
      rw [perform, (record_effect d tx).2.2, Tx.mem_targets, List.mem_filterMap]
      rfl

-- ================================================================== runs

/-- The names after some calls. -/
theorem lookup_tags_after (calls : List Call) (name : String) :
    (({} : Directory).after calls).tags.lookup name
      = if .addCell name ∈ calls then some (.ofName name) else none := by
  induction calls using List.reverseRecOn with
  | nil => simp [after]
  | append_singleton calls call ih =>
      have hlast : (({} : Directory).after (calls ++ [call])).tags.lookup name
          = if call = .addCell name then some (.ofName name)
            else (({} : Directory).after calls).tags.lookup name := by
        rw [after_append]
        exact lookup_tags_perform _ call name
      rw [hlast, ih]
      by_cases hcall : call = .addCell name
      · simp [hcall]
      · simp [hcall, Ne.symm hcall]

/-- The cells that are known after some calls. -/
theorem isKnown_after (calls : List Call) (cell : TagId) :
    (({} : Directory).after calls).isKnown cell ↔ Introduced calls cell := by
  induction calls using List.reverseRecOn with
  | nil => simp [after, isKnown, Introduced]
  | append_singleton calls call ih =>
      have hlast : (({} : Directory).after (calls ++ [call])).isKnown cell
          ↔ call.Introduces cell ∨ (({} : Directory).after calls).isKnown cell := by
        rw [after_append]
        exact isKnown_perform _ call cell
      rw [hlast, ih]
      simp only [Introduced, List.mem_append, List.mem_singleton, or_and_right, exists_or,
        exists_eq_left]
      exact or_comm

theorem LastMapped.concat {calls : List Call} {url : String} {cell : TagId}
    (h : LastMapped calls url cell) {call : Call} (hcall : ∀ other, call ≠ .addUrl url other) :
    LastMapped (calls ++ [call]) url cell := by
  obtain ⟨before, later, rfl, hlater⟩ := h
  refine ⟨before, later ++ [call], List.append_assoc _ _ _, fun other hmem => ?_⟩
  rcases List.mem_append.mp hmem with hmem | hmem
  · exact hlater other hmem
  · exact hcall other (List.mem_singleton.mp hmem).symm

/-- What a URL is mapped to after some calls. -/
theorem lookup_urls_after (calls : List Call) (url : String) (cell : TagId) :
    (({} : Directory).after calls).urls.lookup url = some cell ↔ LastMapped calls url cell := by
  constructor
  · intro hfound
    -- The last call either maps the URL or leaves it to the calls before.
    induction calls using List.reverseRecOn with
    | nil => simp [after] at hfound
    | append_singleton calls call ih =>
        rw [after_append] at hfound
        by_cases hcall : ∃ other, call = .addUrl url other
        · obtain ⟨other, rfl⟩ := hcall
          have hother := (lookup_urls_perform _ url other).symm.trans hfound
          rw [← Option.some.inj hother]
          exact ⟨calls, [], rfl, fun _ => List.not_mem_nil⟩
        · have hnone : ∀ other, call ≠ .addUrl url other := not_exists.mp hcall
          have hbefore := (lookup_urls_perform_of_ne _ call hnone).symm.trans hfound
          exact (ih hbefore).concat hnone
  · rintro ⟨before, later, rfl, hlater⟩
    induction later using List.reverseRecOn with
    | nil =>
        rw [after_append]
        exact lookup_urls_perform _ url cell
    | append_singleton later call ih =>
        have hcall : ∀ other, call ≠ .addUrl url other := by
          rintro other rfl
          exact hlater other (List.mem_append_right _ List.mem_cons_self)
        rw [← List.cons_append, ← List.append_assoc, after_append]
        apply (lookup_urls_perform_of_ne _ call hcall).trans
        apply ih
        intro other hmem
        exact hlater other (List.mem_append_left _ hmem)

-- ============================================================ resolution

/-- A text is read as the identifier that it is the text of, if that one is known. -/
theorem decodeKnown?_eq_some_iff (text : String) (cell : TagId) :
    d.decodeKnown? text = some cell ↔ text = cell.encode ∧ d.isKnown cell := by
  have hdecode : TagId.decode text = .ok cell ↔ text = cell.encode :=
    TagId.decode_eq_ok_iff.trans Octets.decode_eq_ok_iff
  have hoption : (TagId.decode text).toOption = some cell ↔ TagId.decode text = .ok cell := by
    cases TagId.decode text with
    | error fault => simp [Except.toOption]
    | ok other => simp [Except.toOption]
  rw [decodeKnown?, Option.filter_eq_some_iff, hoption, hdecode, isKnown]

/-- A target is found exactly where the calls give it a meaning. -/
theorem find?_after (calls : List Call) (target : Target) (cell : TagId) :
    (({} : Directory).after calls).find? target = some cell ↔ Means calls target cell := by
  cases target with
  | tag name =>
      rw [find?, Option.orElse_eq_orElse, Option.orElse_eq_or, lookup_tags_after]
      by_cases hadded : .addCell name ∈ calls
      · rw [if_pos hadded, Option.some_or]
        constructor
        · intro hcell
          exact .name hadded (Option.some.inj hcell).symm
        · intro hmeans
          cases hmeans with
          | name _ hcell => rw [hcell]
          | text hother => exact absurd hadded hother
      · rw [if_neg hadded, Option.none_or, decodeKnown?_eq_some_iff, isKnown_after]
        constructor
        · rintro ⟨htext, hknown⟩
          exact .text hadded htext hknown
        · intro hmeans
          cases hmeans with
          | name hname => exact absurd hname hadded
          | text _ htext hknown => exact ⟨htext, hknown⟩
  | url url =>
      rw [find?, lookup_urls_after]
      constructor
      · exact .url
      · intro hmeans
        cases hmeans with
        | url hmapped => exact hmapped

theorem resolve_eq_ok_iff {target : Target} {cell : TagId} :
    d.resolve target = .ok cell ↔ d.find? target = some cell := by
  unfold resolve
  cases d.find? target with
  | none => simp
  | some found => simp

theorem resolve_eq_error_iff {target : Target} {code : ErrorCode} :
    d.resolve target = .error code ↔ d.find? target = none ∧ code = .cellNotFound := by
  unfold resolve
  cases d.find? target with
  | none => simp [eq_comm]
  | some found => simp

/-- What a target means may change, but it goes on to mean something. -/
theorem Means.concat {calls : List Call} {target : Target} {cell : TagId}
    (h : Means calls target cell) (call : Call) :
    ∃ cell', Means (calls ++ [call]) target cell' := by
  cases h with
  | @name name cell hadded hcell => exact ⟨cell, .name (List.mem_append_left _ hadded) hcell⟩
  | @text text cell hother htext hknown =>
      by_cases hcall : call = .addCell text
      · -- The text becomes a name, and names win.
        rw [hcall]
        exact ⟨.ofName text, .name (List.mem_append_right _ List.mem_cons_self) rfl⟩
      · obtain ⟨introducing, hmem, hintroduces⟩ := hknown
        refine ⟨cell, .text ?_ htext ⟨introducing, List.mem_append_left _ hmem, hintroduces⟩⟩
        simp [hother, Ne.symm hcall]
  | @url url cell hmapped =>
      by_cases hcall : ∃ other, call = .addUrl url other
      · obtain ⟨other, rfl⟩ := hcall
        exact ⟨other, .url ⟨calls, [], rfl, fun _ => List.not_mem_nil⟩⟩
      · exact ⟨cell, .url (hmapped.concat (not_exists.mp hcall))⟩

theorem exists_means_append {calls : List Call} {target : Target} (more : List Call)
    (h : ∃ cell, Means calls target cell) : ∃ cell, Means (calls ++ more) target cell := by
  induction more using List.reverseRecOn with
  | nil => rwa [List.append_nil]
  | append_singleton more call ih =>
      obtain ⟨cell, hmeans⟩ := ih
      rw [← List.append_assoc]
      exact hmeans.concat call

/-- After any calls on a new directory a target resolves to what the calls make it
mean, and to nothing else; where they give it no meaning no cell is found, and no
other error is ever answered. A target that resolves does so after any more calls. -/
theorem resolve_of_run (calls : List Call) (target : Target) :
    let directory := ({} : Directory).after calls
    (∀ cell, directory.resolve target = .ok cell ↔ Means calls target cell)
      ∧ (∀ code, directory.resolve target = .error code
          ↔ code = .cellNotFound ∧ ∀ cell, ¬Means calls target cell)
      ∧ ∀ more, (∃ cell, directory.resolve target = .ok cell) →
          ∃ cell, (({} : Directory).after (calls ++ more)).resolve target = .ok cell := by
  intro directory
  have hok : ∀ calls cell, (({} : Directory).after calls).resolve target = .ok cell
      ↔ Means calls target cell := fun calls cell =>
    (resolve_eq_ok_iff _).trans (find?_after calls target cell)
  refine ⟨hok calls, fun code => ?_, fun more => ?_⟩
  · rw [resolve_eq_error_iff, Option.eq_none_iff_forall_ne_some, and_comm]
    simp only [directory, ne_eq, find?_after]
  · simp only [directory, hok]
    exact exists_means_append more

/-- The text of a known cell's identifier, before and after it is a name as well. -/
theorem resolve_of_run_renamed :
    let cell := TagId.ofWord 7
    let calls : List Call := [.addUrl "amp://home/lobby" cell]
    (({} : Directory).after calls).resolve (.tag cell.encode) = .ok cell
      ∧ ∃ other, (({} : Directory).after (calls ++ [.addCell cell.encode])).resolve
          (.tag cell.encode) = .ok other := by
  intro cell calls
  have hmeans : Means calls (.tag cell.encode) cell :=
    .text (by simp [calls]) rfl ⟨_, List.mem_cons_self, rfl⟩
  obtain ⟨hok, -, hlasting⟩ := resolve_of_run calls (.tag cell.encode)
  have hfound := (hok cell).mpr hmeans
  exact ⟨hfound, hlasting _ ⟨cell, hfound⟩⟩

end CellSync.Directory
