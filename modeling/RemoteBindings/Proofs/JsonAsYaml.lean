import Mathlib.Data.List.Permutation
import RemoteBindings.CommandLine.Program
import RemoteBindings.Proofs.Checks
import RemoteBindings.Proofs.FlowNodes

/-!
# JSON descriptors read as YAML

A file whose name does not end in `.json` is read as YAML, also if its text is JSON. The text of a
JSON document with a list or an object can be read so exactly if it fits (`Document.FitsYaml`): its
characters are allowed, no tab stands between its tokens, no string goes on behind a line break with
a document mark, and every name ends in its line, at most 1024 characters before its colon. Its
value is then that of the tree with other strings and bare values (`Reading.asScalars`), and makes
the same descriptor as in a JSON file if they are all of common forms (`load_eq_iff_of_json`).
-/

namespace RemoteBindings

namespace Json

open Yaml (isAllowed isBreak separates)

/-- Whether the text of a document can be read as YAML. -/
def Document.FitsYaml (t : Document) : Prop :=
  (∀ c ∈ t.chars, isAllowed c = true) ∧ t.Each (Demands.readable.and .confirmed)

/-! ## Common readings -/

/-- Whether a letter stands for the same in both languages, whatever is around it. -/
def Letter.IsCommon : Letter → Prop
  | .raw c _ => isBreak c = false
  | .pair .. => False
  | .escape .. | .code _ => True

/-- The demand that strings and bare values have forms that both languages read alike: no raw line
break and no codes of two surrogates, none of the words for what is no number or not finite, and no
exponent without a fraction and a sign. -/
def Demands.common : Demands where
  text ls := ∀ l ∈ ls, l.IsCommon
  bare b := b.isCommon = true

theorem foldedFrom_of_common {ls : Letters} (h : ∀ l ∈ ls, l.IsCommon) {gap : List Char}
    (hgap : ∀ x ∈ gap, x = ' ') : ls.foldedFrom gap = gap ++ ls.map Letter.char := by
  induction ls generalizing gap with
  | nil => simp [Letters.foldedFrom, Yaml.gapText_of_spaces hgap]
  | cons l ls ih =>
    obtain ⟨hl, hls⟩ := List.forall_mem_cons.mp h
    have hnil := ih hls (List.forall_mem_nil _)
    cases l with
    | raw c hc =>
      by_cases hsep : separates c = true
      · -- Of the characters that separate, only the space is no line break.
        have hspace : c = ' ' :=
          (Yaml.isFoldable_of_raw hc hsep).resolve_right (ne_true_of_eq_false hl)
        have hgap' : ∀ x ∈ gap ++ [c], x = ' ' :=
          List.forall_mem_append.mpr ⟨hgap, List.forall_mem_singleton.mpr hspace⟩
        rw [Letters.foldedFrom, if_pos hsep, ih hls hgap', List.append_assoc]
        rfl
      · rw [Letters.foldedFrom, if_neg hsep, Yaml.gapText_of_spaces hgap, hnil]
        rfl
    | escape c x hx =>
      rw [Letters.foldedFrom, Yaml.gapText_of_spaces hgap, hnil]
      · rfl
      all_goals simp
    | code x =>
      rw [Letters.foldedFrom, Yaml.gapText_of_spaces hgap, hnil]
      · rfl
      all_goals simp
    | pair high low hpair => exact hl.elim

theorem folded_eq_text {ls : Letters} (h : ∀ l ∈ ls, l.IsCommon) : ls.folded = ls.text := by
  rw [Letters.folded, foldedFrom_of_common h (List.forall_mem_nil _), List.nil_append]
  rfl

theorem Tree.read_of_common {t : Tree} (h : t.Each .common) :
    t.read .asScalars = t.read .plain := by
  refine t.read_congr ⟨fun ls => folded_eq_text, fun b hb => ?_⟩ h
  exact if_pos hb

/-! ## The text as YAML -/

theorem Document.each_confirmed (t : Document) : t.Each .confirmed ↔ t.tree.Each .confirmed := by
  simp [Document.Each, Demands.confirmed]

theorem Document.fitsYaml_iff (t : Document) : t.FitsYaml ↔
    ((∀ c ∈ t.chars, isAllowed c = true) ∧ t.Each .readable) ∧ t.tree.Each .confirmed := by
  rw [FitsYaml, t.each_and, t.each_confirmed, and_assoc]

open Yaml (Decides)

/-- The text of a document with a collection, read as YAML. -/
theorem Document.decides_read? (t : Document) (ht : t.tree.isCollection = true) :
    Decides (Yaml.read? (String.ofList t.chars)) t.FitsYaml
      fun v => v = t.tree.read .asScalars := by
  obtain ⟨htokens, hbroken⟩ := Yaml.Lexer.ofText_document ht
  rw [t.fitsYaml_iff]
  by_cases hread : (∀ c ∈ t.chars, isAllowed c = true) ∧ t.Each .readable
  · obtain ⟨htoks, place, hplace⟩ := htokens hread
    have hdocument := Yaml.ofLexemes?_tree htoks hplace
    refine ⟨fun hok => ?_, fun hnot => ?_⟩
    · obtain ⟨_, hd, g, root, rfl, hstands⟩ := hdocument.isOk hok.2
      refine ⟨_, ?_, rfl⟩
      rw [Yaml.read?, Yaml.document?, hd]
      exact Yaml.value?_of_stands hstands
    · obtain ⟨e, he⟩ := hdocument.isError fun hok => hnot ⟨hread, hok⟩
      refine ⟨e, ?_⟩
      rw [Yaml.read?, Yaml.document?, he]
  · obtain ⟨p, hp⟩ := hbroken hread
    refine ⟨fun hok => absurd hok.1 hread, fun _ => ?_⟩
    rw [Yaml.read?, Yaml.document?]
    cases hd : Yaml.Document.ofLexemes? (.ofText (String.ofList t.chars)) with
    | error e => exact ⟨e, rfl⟩
    | ok d =>
      obtain ⟨place, hplace⟩ := Yaml.ending_of_ofLexemes? hd
      cases hp.symm.trans hplace

end Json

namespace Descriptor

open Json (Document)

/-! ## Descriptors -/

variable {v : Value} {d : Service}

/-- Only a list or a mapping describes a service. -/
theorem isCollection_of_build {t : Json.Tree} (h : build (t.read .plain) = .ok d) :
    t.isCollection = true := by
  have hcheck := checkService_of_build h
  cases t with
  | string ls => cases hcheck
  | bare b =>
    cases b with
    | word w hw =>
      simp only [Json.words, List.mem_cons, List.not_mem_nil, or_false] at hw
      rcases hw with rfl | rfl | rfl | rfl | rfl | rfl <;> cases hcheck
    | number n =>
      have hvalue : (∃ m, n.value = .int m) ∨ ∃ x, n.value = .float x := by
        unfold Json.Numeral.value
        split
        · exact .inl ⟨_, rfl⟩
        · exact .inr ⟨_, rfl⟩
      change checkService n.value = _ at hcheck
      rcases hvalue with ⟨m, hm⟩ | ⟨x, hx⟩
      · rw [hm] at hcheck
        cases hcheck
      · rw [hx] at hcheck
        cases hcheck
  | emptyList _ => rfl
  | list _ => rfl
  | emptyObject _ => rfl
  | object _ => rfl

theorem notMem_unifyLineEndChars (cs : List Char) : '\r' ∉ Text.unifyLineEndChars cs := by
  fun_induction Text.unifyLineEndChars cs with
  | case1 => simp
  | case2 cs ih => simpa using ih
  | case3 cs hcs ih => simpa using ih
  | case4 c cs hcs hc ih =>
    rw [List.mem_cons, not_or]
    exact ⟨fun heq => hc heq.symm, ih⟩

theorem notMem_decodeText {bytes : List UInt8} {text : String}
    (h : decodeText bytes = .ok text) : '\r' ∉ text.toList := by
  unfold decodeText at h
  split at h
  · obtain rfl := Except.ok.inj h
    rw [Text.unifyLineEnds, String.toList_ofList]
    exact notMem_unifyLineEndChars _
  · cases h

variable {p q : Path} {bytes : List UInt8} {text : String}

theorem load_of_decodeText (hdecode : decodeText bytes = .ok text) (path : Path) :
    load path (.ok bytes) = (parseText path text >>= fun v => (build v).mapError .refused) := by
  show (decodeText bytes >>= _) = _
  rw [hdecode]
  rfl

theorem mapError_build_eq_ok_iff :
    (build v).mapError LoadError.refused = .ok d ↔ build v = .ok d := by
  cases build v with
  | error e => exact iff_of_false (by rintro ⟨⟩) (by rintro ⟨⟩)
  | ok d' => exact ⟨fun h => congrArg _ (Except.ok.inj h), fun h => congrArg _ (Except.ok.inj h)⟩

theorem load_json_iff (hp : p.hasEnding ".json" = true) (hdecode : decodeText bytes = .ok text) :
    load p (.ok bytes) = .ok d ↔ ∃ v, Json.read? text = .ok v ∧ build v = .ok d := by
  rw [load_of_decodeText hdecode, parseText, if_pos hp]
  cases Json.read? text with
  | error e => exact iff_of_false (by rintro ⟨⟩) (by rintro ⟨v, ⟨⟩, -⟩)
  | ok v =>
    refine mapError_build_eq_ok_iff.trans ⟨fun h => ⟨v, rfl, h⟩, ?_⟩
    rintro ⟨_, ⟨⟩, h⟩
    exact h

theorem load_yaml_iff (hq : q.hasEnding ".json" = false) (hdecode : decodeText bytes = .ok text) :
    load q (.ok bytes) = .ok d ↔ ∃ v, Yaml.read? text = .ok v ∧ build v = .ok d := by
  rw [load_of_decodeText hdecode, parseText, if_neg (by simp [hq])]
  cases Yaml.read? text with
  | error e => exact iff_of_false (by rintro ⟨⟩) (by rintro ⟨v, ⟨⟩, -⟩)
  | ok v =>
    refine mapError_build_eq_ok_iff.trans ⟨fun h => ⟨v, rfl, h⟩, ?_⟩
    rintro ⟨_, ⟨⟩, h⟩
    exact h

/-- The text of a document with a descriptor, read as YAML. -/
theorem load_document_iff {t : Document} (ht : t.tree.isCollection = true)
    (hq : q.hasEnding ".json" = false) (hdecode : decodeText bytes = .ok (String.ofList t.chars)) :
    load q (.ok bytes) = .ok d ↔ t.FitsYaml ∧ build (t.tree.read .asScalars) = .ok d := by
  have hread := t.decides_read? ht
  rw [load_yaml_iff hq hdecode]
  constructor
  · rintro ⟨v, hv, hbuild⟩
    by_cases hfits : t.FitsYaml
    · obtain ⟨_, hv', rfl⟩ := hread.isOk hfits
      obtain rfl := Except.ok.inj (hv.symm.trans hv')
      exact ⟨hfits, hbuild⟩
    · obtain ⟨e, he⟩ := hread.isError hfits
      cases hv.symm.trans he
  · rintro ⟨hfits, hbuild⟩
    obtain ⟨_, hv, rfl⟩ := hread.isOk hfits
    exact ⟨_, hv, hbuild⟩

/-- The document of a JSON file with a descriptor. -/
theorem exists_document_of_load (hp : p.hasEnding ".json" = true) (h : load p (.ok bytes) = .ok d) :
    ∃ t : Document, decodeText bytes = .ok (String.ofList t.chars) ∧
      build (t.tree.read .plain) = .ok d := by
  cases hdecode : decodeText bytes with
  | error e =>
    have hfail : load p (.ok bytes) = .error e := by
      show (decodeText bytes >>= _) = _
      rw [hdecode]
      rfl
    cases h.symm.trans hfail
  | ok text =>
    obtain ⟨v, hv, hbuild⟩ := (load_json_iff hp hdecode).mp h
    have hdocument : Json.readDocument text.toList = .ok v := by
      unfold Json.read? at hv
      split at hv
      · next hread => rw [hread, Except.ok.inj hv]
      · cases hv
    obtain ⟨t, ht, rfl⟩ := Json.exists_document (notMem_decodeText hdecode) hdocument
    exact ⟨t, by rw [ht, String.ofList_toList], hbuild⟩

/-- What a JSON file with a descriptor makes under another name: nothing unless its text fits, and
otherwise what its value as YAML makes. That is the same descriptor if its strings and bare values
have forms that both languages read alike. -/
theorem load_eq_iff_of_json (hp : p.hasEnding ".json" = true) (hq : q.hasEnding ".json" = false)
    (h : load p (.ok bytes) = .ok d) :
    ∃ t : Document, decodeText bytes = .ok (String.ofList t.chars) ∧
      build (t.tree.read .plain) = .ok d ∧
      (∀ d', load q (.ok bytes) = .ok d' ↔
        t.FitsYaml ∧ build (t.tree.read .asScalars) = .ok d') ∧
      (t.FitsYaml → t.tree.Each .common → load q (.ok bytes) = .ok d) := by
  obtain ⟨t, hdecode, hbuild⟩ := exists_document_of_load hp h
  have hiff (d' : Service) : load q (.ok bytes) = .ok d' ↔
      t.FitsYaml ∧ build (t.tree.read .asScalars) = .ok d' :=
    load_document_iff (isCollection_of_build hbuild) hq hdecode
  refine ⟨t, hdecode, hbuild, hiff, fun hfits hcommon => (hiff d).mpr ⟨hfits, ?_⟩⟩
  rw [Json.Tree.read_of_common hcommon]
  exact hbuild

theorem decodeText_bytesOf (s : String) :
    decodeText (CommandLine.bytesOf s) = .ok (Text.unifyLineEnds s) := by
  have hdecode : String.fromUTF8? ⟨(CommandLine.bytesOf s).toArray⟩ = some s := by
    have hvalid : ByteArray.IsValidUTF8 ⟨(CommandLine.bytesOf s).toArray⟩ := s.isValidUTF8
    rw [String.fromUTF8?, dif_pos hvalid]
    rfl
  rw [decodeText, hdecode]

theorem load_eq_iff_of_json_note :
    let bytes := CommandLine.bytesOf "[\x7b\"name\": \"Note\"\x7d]"
    let note : ModelClass := ⟨"Note", none, none, false, [], .default, [], [], []⟩
    let p := Path.ofText "sdk/note.json"
    let q := Path.ofText "sdk/note.yaml"
    p.hasEnding ".json" = true ∧ q.hasEnding ".json" = false ∧
      load p (.ok bytes) = .ok ⟨[note], []⟩ ∧
      ∃ t : Document, decodeText bytes = .ok (String.ofList t.chars) ∧
        build (t.tree.read .plain) = .ok ⟨[note], []⟩ ∧
        (∀ d', load q (.ok bytes) = .ok d' ↔
          t.FitsYaml ∧ build (t.tree.read .asScalars) = .ok d') ∧
        (t.FitsYaml → t.tree.Each .common → load q (.ok bytes) = .ok ⟨[note], []⟩) := by
  intro bytes note p q
  have hp : p.hasEnding ".json" = true := by decide
  have hq : q.hasEnding ".json" = false := by decide
  have hload : load p (.ok bytes) = .ok ⟨[note], []⟩ := by
    refine (load_json_iff hp (decodeText_bytesOf _)).mpr
      ⟨.list [.map [(.text "name", .text "Note")]], ?_, ?_⟩
    · cbv
    · cbv
  exact ⟨hp, hq, hload, load_eq_iff_of_json hp hq hload⟩

/-- An object with a tab in front of its only name. -/
def tabbed : Document where
  before := ⟨[], by simp⟩
  tree := .object (.last ⟨⟨['\t'], by simp⟩, [.raw 'x' (by decide)], ⟨[], by simp⟩, ⟨[], by simp⟩⟩
    (.emptyList ⟨[], by simp⟩) ⟨[], by simp⟩)
  after := ⟨[], by simp⟩

/-- A tab in front of a name is white space in JSON, but begins no token in YAML. -/
theorem not_load_eq_of_json : ¬ ∀ (p q : Path) (bytes : List UInt8) (d : Service),
    p.hasEnding ".json" = true → q.hasEnding ".yaml" = true → load p (.ok bytes) = .ok d →
      load q (.ok bytes) = .ok d := by
  intro h
  let p := Path.ofText "sdk/note.json"
  let q := Path.ofText "sdk/note.yaml"
  let bytes := CommandLine.bytesOf "\x7b\t\"x\":[]\x7d"
  have hp : p.hasEnding ".json" = true := by decide
  have hq : q.hasEnding ".json" = false := by decide
  have hdecode : decodeText bytes = .ok (Text.unifyLineEnds "\x7b\t\"x\":[]\x7d") :=
    decodeText_bytesOf _
  have htext : Text.unifyLineEnds "\x7b\t\"x\":[]\x7d" = String.ofList tabbed.chars := by cbv
  have hload : load p (.ok bytes) = .ok ⟨[], [("x", .list [])]⟩ := by
    refine (load_json_iff hp hdecode).mpr ⟨.map [(.text "x", .list [])], ?_, ?_⟩
    · cbv
    · cbv
  rw [htext] at hdecode
  have hsame := h p q bytes _ hp (by decide) hload
  obtain ⟨⟨-, -, hobject, -⟩, -⟩ := (load_document_iff rfl hq hdecode).mp hsame
  -- The white space in front of the name has to be free of tabs.
  have hclean : '\t' ∉ ['\t'] := hobject.1.1.1
  exact hclean List.mem_cons_self

end Descriptor

end RemoteBindings
