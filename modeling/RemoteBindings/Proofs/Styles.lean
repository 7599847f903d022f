import RemoteBindings.Console.Print
import RemoteBindings.Proofs.Results

/-!
# Texts that can be shown

A text can be shown (`CanShow`) if it can be read as markup and the styles of its stretches can be
shown (`MarkedText.Shows`). Whatever a text is parted into keeps its styles (`shows_divide`), and so
do its tabs and its ends (`shows_expandTabs`, `shows_justify`). So such a text can be printed
(`isOk_printed`), and a table with such titles and cells (`isOk_tablePrinted`).
-/

namespace RemoteBindings.Console

variable {t u : MarkedText}

/-- The styles of all stretches can be shown. -/
def MarkedText.Shows (t : MarkedText) : Prop :=
  ∀ s ∈ t.spans, ¬ (Style.ofText s.style matches .error .noNumber)

/-- A text that can be read as markup, with styles that can be shown. -/
def CanShow (s : String) : Prop := ∃ t, markedText s = .ok t ∧ t.Shows

theorem checkStyles_of_shows (h : t.Shows) : checkStyles t = .ok () := by
  rw [checkStyles, if_neg]
  intro ha
  obtain ⟨s, hs, hf⟩ := List.any_eq_true.mp ha
  exact h s hs hf

/-! ## What is made of a text -/

namespace MarkedText

/-- Stretches of the same styles, or fewer, can be shown as well. -/
theorem Shows.of_styles (h : t.Shows) (hu : ∀ s ∈ u.spans, ∃ s' ∈ t.spans, s.style = s'.style) :
    u.Shows := by
  intro s hs
  obtain ⟨s', hs', he⟩ := hu s hs
  exact he ▸ h s' hs'

theorem style_of_clip? {first last : Nat} {s s' : Span} (h : s.clip? first last = some s') :
    s'.style = s.style := by
  unfold Span.clip? at h
  simp only at h
  split at h
  · cases h
    rfl
  · cases h

theorem shows_between (h : t.Shows) (first last : Nat) : (t.between first last).Shows := by
  refine h.of_styles fun s hs => ?_
  obtain ⟨s', hs', hc⟩ := List.mem_filterMap.mp hs
  exact ⟨s', hs', style_of_clip? hc⟩

theorem shows_divide (h : t.Shows) (offsets : List Nat) : ∀ u ∈ t.divide offsets, u.Shows := by
  intro u hu
  unfold divide at hu
  split at hu
  · rwa [List.mem_singleton.mp hu]
  · rw [← List.map_uncurry_zip_eq_zipWith] at hu
    obtain ⟨⟨first, last⟩, -, rfl⟩ := List.mem_map.mp hu
    exact shows_between h first last

theorem shows_lines (h : t.Shows) : ∀ u ∈ t.lines, u.Shows := fun u hu =>
  shows_divide h _ u (List.mem_filter.mp hu).1

theorem shows_append (ht : t.Shows) (hu : u.Shows) : (t.append u).Shows := by
  intro s hs
  rcases List.mem_append.mp hs with hs | hs
  · exact ht s hs
  · obtain ⟨s', hs', rfl⟩ := List.mem_map.mp hs
    exact hu s' hs'

theorem shows_extend (h : t.Shows) (n : Nat) : (t.extend n).Shows := by
  refine h.of_styles fun s hs => ?_
  obtain ⟨s', hs', rfl⟩ := List.mem_map.mp hs
  exact ⟨s', hs', by split <;> rfl⟩

theorem shows_fillParts {parts : List MarkedText} (h : ∀ part ∈ parts, part.Shows)
    (column : Nat) : (fillParts column parts).Shows := by
  induction parts generalizing column with
  | nil => exact fun _ hs => (List.not_mem_nil hs).elim
  | cons part parts ih =>
    obtain ⟨hpart, hparts⟩ := List.forall_mem_cons.mp h
    unfold fillParts
    split
    · have hplain : (MarkedText.mk (part.chars.dropLast ++ [' ']) part.spans).Shows := hpart
      exact shows_append (shows_extend hplain _) (ih hparts _)
    · exact shows_append hpart (ih hparts _)

theorem shows_expandTabs (h : t.Shows) : t.expandTabs.Shows := by
  unfold expandTabs
  simp only
  split
  · exact h
  · exact shows_fillParts (shows_divide h _) 0

theorem shows_crop (h : t.Shows) (n : Nat) : (t.crop n).Shows := by
  refine h.of_styles fun s hs => ?_
  obtain ⟨s', hs', rfl⟩ := List.mem_map.mp hs
  exact ⟨s', (List.mem_filter.mp hs').1, rfl⟩

theorem shows_trimEnd (h : t.Shows) (width : Nat) : (t.trimEnd width).Shows := by
  unfold trimEnd
  simp only
  split
  · exact h
  · exact shows_crop h _

theorem shows_justify (h : t.Shows) (width : Nat) : (t.justify width).Shows := by
  unfold justify withChars
  split
  · split
    · exact shows_crop h _
    · exact h
  · exact h

theorem shows_wrapped (h : t.Shows) (width : Nat) : ∀ u ∈ t.wrapped width, u.Shows := by
  intro u hu
  obtain ⟨line, hl, hu⟩ := List.mem_flatMap.mp hu
  obtain ⟨part, hp, rfl⟩ := List.mem_map.mp hu
  refine shows_justify (shows_trimEnd ?_ width) width
  exact shows_divide (shows_expandTabs (shows_lines h line hl)) _ part hp

end MarkedText

/-! ## Printing -/

/-- A text that can be shown can be printed. -/
theorem isOk_printed {s : String} (h : CanShow s) : (printed s).isOk = true := by
  obtain ⟨t, hm, ht⟩ := h
  have hlines : ∀ line ∈ t.lines.map MarkedText.expandTabs, checkStyles line = .ok () :=
    List.forall_mem_map.mpr fun u hu =>
      checkStyles_of_shows (MarkedText.shows_expandTabs (MarkedText.shows_lines ht u hu))
  simp only [printed, hm, bind, Except.bind, forM_eq_ok hlines]
  rfl

/-- The lines of a column whose texts can be shown. -/
theorem exists_shown {c : Column} (ht : CanShow c.title) (hc : ∀ s ∈ c.cells, CanShow s) :
    ∃ col, c.shown = .ok col ∧
      ∀ lines ∈ col.title :: col.cells, ∀ line ∈ lines, checkStyles line = .ok () := by
  obtain ⟨title, hm, hs⟩ := ht
  obtain ⟨cells, hms, hcells⟩ := exists_mapM_eq_ok hc
  refine ⟨_, by simp only [Column.shown, hm, hms, bind, Except.bind]; rfl, ?_⟩
  refine List.forall_mem_cons.mpr ⟨fun line hl => ?_, List.forall_mem_map.mpr fun t ht line hl => ?_⟩
  · exact checkStyles_of_shows (MarkedText.shows_wrapped hs _ line hl)
  · exact checkStyles_of_shows (MarkedText.shows_wrapped (hcells t ht) _ line hl)

/-- A table whose texts can be shown can be printed. -/
theorem isOk_tablePrinted {table : Table}
    (h : ∀ c ∈ table, CanShow c.title ∧ ∀ s ∈ c.cells, CanShow s) :
    table.printed.isOk = true := by
  obtain ⟨columns, hm, hcolumns⟩ := exists_mapM_eq_ok fun c hc => exists_shown (h c hc).1 (h c hc).2
  have hall := forM_eq_ok fun c hc => forM_eq_ok fun lines hl => forM_eq_ok (hcolumns c hc lines hl)
  simp only [Table.printed, hm, bind, Except.bind, hall]
  rfl

end RemoteBindings.Console
