import Mathlib.Data.List.TakeWhile
import Aviso.Proofs.Catalogue
import Aviso.Proofs.Template

/-!
# Catalogues in directories

A catalogue is stored with a file for each template.  It is loaded back from such a
directory, whatever else the directory holds and in whatever order it is listed.

* `extension?_eq_some_iff` says which names end in `.json`.
* `StoredAs` says which entry of a directory holds a template, and `PassedOver` which
  entries hold none; `namedTemplate?` tells them apart.
* `ofList_perm`: templates under different ids are all kept.
* `load_stored` puts these together.
-/

namespace Aviso

open Json

/-! ## Names -/

/-- The last point of a name is found from behind. -/
theorem extension?_eq (name : String) :
    extension? name =
      match name.toList.reverse.dropWhile (· != '.') with
      | _ :: _ :: _ => some (String.ofList (name.toList.reverse.takeWhile (· != '.')).reverse)
      | _ => none := by
  have hsplit := List.takeWhile_append_dropWhile (p := (· != '.')) (l := name.toList.reverse)
  have hdrop := (congrArg (List.drop _) hsplit).symm.trans List.drop_left
  rw [← hdrop]
  rfl

theorem exists_stem_of_extension? {name suffix : String} (hsuffix : extension? name = some suffix) :
    ∃ stem, stem ≠ "" ∧ '.' ∉ suffix.toList ∧ name = stem ++ ("." ++ suffix) := by
  have hsplit := List.takeWhile_append_dropWhile (p := (· != '.')) (l := name.toList.reverse)
  have hpoint := List.head?_dropWhile_not (· != '.') name.toList.reverse
  rw [extension?_eq] at hsuffix
  split at hsuffix
  · rename_i point last rest hrest
    rw [hrest] at hsplit hpoint
    obtain rfl : point = '.' := by simpa using hpoint
    obtain rfl := Option.some.inj hsuffix
    refine ⟨String.ofList (last :: rest).reverse, ?_, ?_, ?_⟩
    · simp [String.ext_iff]
    · intro hmem
      rw [String.toList_ofList, List.mem_reverse] at hmem
      simpa using List.mem_takeWhile_imp hmem
    · rw [← String.toList_inj, ← List.reverse_inj]
      refine hsplit.symm.trans ?_
      simp
  · cases hsuffix

theorem extension?_append {stem suffix : String} (hstem : stem ≠ "")
    (hsuffix : '.' ∉ suffix.toList) : extension? (stem ++ ("." ++ suffix)) = some suffix := by
  have hpass : ∀ c ∈ suffix.toList.reverse, (c != '.') = true := by
    intro c hmem
    rw [bne_iff_ne]
    intro hpoint
    exact hsuffix (List.mem_reverse.mp (hpoint ▸ hmem))
  have htext : (stem ++ ("." ++ suffix)).toList.reverse =
      suffix.toList.reverse ++ '.' :: stem.toList.reverse := by
    simp
  have hsome : stem.toList.reverse ≠ [] := by
    simpa using hstem
  obtain ⟨last, rest, hlast⟩ := List.exists_cons_of_ne_nil hsome
  rw [extension?_eq, htext, hlast, List.dropWhile_append_of_pos hpass,
    List.takeWhile_append_of_pos hpass]
  simp

/-- A name ends in what stands behind its last point, if something stands before it. -/
theorem extension?_eq_some_iff {name suffix : String} :
    extension? name = some suffix ↔
      ∃ stem, stem ≠ "" ∧ '.' ∉ suffix.toList ∧ name = stem ++ ("." ++ suffix) := by
  constructor
  · exact exists_stem_of_extension?
  · intro hname
    obtain ⟨stem, hstem, hsuffix, rfl⟩ := hname
    exact extension?_append hstem hsuffix

example : extension? ".json" = none := by
  decide

/-! ## Entries -/

theorem fromUTF8?_toUTF8 (text : String) : String.fromUTF8? text.toUTF8 = some text := by
  unfold String.fromUTF8?
  rw [String.toUTF8_eq_toByteArray, dif_pos text.isValidUTF8]
  rfl

theorem template?_file_toUTF8 (text : String) :
    (Entry.file text.toUTF8).template? = (Document.read? text).bind Template.ofDocument? := by
  rw [Entry.template?, fromUTF8?_toUTF8]
  rfl

/-- The entry is a file under a name that ends in `.json`, with a text of the template. -/
def Template.StoredAs (template : Template) (entry : String × Entry) : Prop :=
  ∃ stem text, stem ≠ "" ∧ entry = (stem ++ ".json", .file text.toUTF8) ∧ template.WrittenAs text

/-- The entry holds no template: its name ends otherwise, or it is no file, or the
file is no text or a text of something else. -/
inductive PassedOver : String × Entry → Prop where
  | otherName {name entry} (hname : ∀ stem, stem ≠ "" → name ≠ stem ++ ".json") :
    PassedOver (name, entry)
  | directory {name} : PassedOver (name, .directory)
  | noText {name content} (hcontent : String.fromUTF8? content = none) :
    PassedOver (name, .file content)
  | noTemplate {name text}
    (htext : ∀ document, Document.read? text = some document → Template.ofDocument? document = none) :
    PassedOver (name, .file text.toUTF8)

theorem namedTemplate?_of_storedAs {template : Template} {entry : String × Entry}
    (hstored : template.StoredAs entry) : namedTemplate? entry = some template := by
  obtain ⟨stem, text, hstem, rfl, hwritten⟩ := hstored
  obtain ⟨document, hread, htemplate⟩ := Template.exists_document_of_writtenAs hwritten
  have hextension : extension? (stem ++ ".json") = some "json" :=
    extension?_eq_some_iff.mpr ⟨stem, hstem, by decide, rfl⟩
  rw [namedTemplate?, hextension, template?_file_toUTF8, hread]
  exact htemplate

theorem namedTemplate?_of_passedOver {entry : String × Entry} (hpassed : PassedOver entry) :
    namedTemplate? entry = none := by
  cases hpassed with
  | otherName hname =>
    rw [namedTemplate?, if_neg]
    rw [beq_iff_eq, extension?_eq_some_iff]
    intro hextension
    obtain ⟨stem, hstem, _, hsame⟩ := hextension
    exact hname stem hstem hsame
  | directory => simp [namedTemplate?, Entry.template?]
  | noText hcontent => simp [namedTemplate?, Entry.template?, hcontent]
  | noTemplate htext =>
    rw [namedTemplate?, template?_file_toUTF8]
    simpa using fun _ => htext

namespace Catalogue

/-! ## Loading -/

theorem lastUnder?_eq_some_iff {written : List Template} (hids : (written.map Template.id).Nodup)
    {id : String} {template : Template} :
    lastUnder? id written = some template ↔ template ∈ written ∧ template.id = id := by
  constructor
  · intro hlast
    simpa using List.mem_of_getLast? hlast
  · intro hmem
    obtain ⟨hmem, rfl⟩ := hmem
    have hfound : template ∈ written.filter fun other => other.id == template.id := by
      simpa using hmem
    obtain ⟨last, hlast⟩ := List.getLast?_isSome.mpr (List.ne_nil_of_mem hfound) |>
      Option.isSome_iff_exists.mp
    have hother : last ∈ written ∧ last.id = template.id := by
      simpa using List.mem_of_getLast? hlast
    rw [List.inj_on_of_nodup_map hids hother.1 hmem hother.2] at hlast
    exact hlast

/-- Templates under different ids are all kept. -/
theorem ofList_perm {written : List Template} (hids : (written.map Template.id).Nodup) :
    (ofList written).templates.Perm written := by
  rw [List.perm_ext_iff_of_nodup (List.Nodup.of_map _ (ordered_ofList written).nodup_ids)
    (List.Nodup.of_map _ hids)]
  intro template
  rw [mem_ofList, lastUnder?_eq_some_iff hids, and_iff_left rfl]

theorem filterMap_stored {templates : List Template} {stored : List (String × Entry)}
    (hstored : List.Forall₂ Template.StoredAs templates stored) :
    stored.filterMap namedTemplate? = templates := by
  induction hstored with
  | nil => rfl
  | cons hentry _ ih => rw [List.filterMap_cons_some (namedTemplate?_of_storedAs hentry), ih]

/-- A template is stored with its JSON text, whether the fields stand as they are
declared or with sorted keys, and on one line or on several.  A directory in which each
template is stored in a file of its own, next to entries that hold none, gives a
catalogue of just these templates in the order of their ids, in whatever order the
directory is listed. -/
theorem load_stored {templates : List Template} {stored others entries : List (String × Entry)}
    (hids : (templates.map Template.id).Nodup)
    (hstored : List.Forall₂ Template.StoredAs templates stored)
    (hothers : ∀ entry ∈ others, PassedOver entry)
    (hentries : entries.Perm (stored ++ others)) :
    (∀ template : Template,
      template.WrittenAs (Value.object template.fields).print ∧
      template.WrittenAs (Value.object template.fields).printLines ∧
      template.WrittenAs template.toValue.print ∧ template.WrittenAs template.toValue.printLines) ∧
    ∃ catalogue, load (.entries entries) = .ok catalogue ∧ catalogue.templates.Perm templates ∧
      catalogue.templates.Pairwise fun first second => first.id < second.id := by
  have hnone : others.filterMap namedTemplate? = [] :=
    List.filterMap_eq_nil_iff.mpr fun entry hmem => namedTemplate?_of_passedOver (hothers entry hmem)
  have hfound : (entries.filterMap namedTemplate?).Perm templates := by
    calc List.Perm (entries.filterMap namedTemplate?)
          ((stored ++ others).filterMap namedTemplate?) := hentries.filterMap namedTemplate?
      List.Perm _ templates := by
        rw [List.filterMap_append, filterMap_stored hstored, hnone, List.append_nil]
  have hkept := ofList_perm ((hfound.map Template.id).nodup_iff.mpr hids)
  exact ⟨Template.writtenAs_print, _, rfl, hkept.trans hfound, ordered_ofList _⟩

/-- Two templates are loaded from among entries that hold none. -/
theorem load_stored_two :
    ∃ catalogue,
      load (.entries [
        ("notes.txt", .file "[BASE]x[FIN]".toUTF8),
        ("old.json", .directory),
        ("broken.json", .file ⟨#[0xff]⟩),
        ("list.json", .file "[]".toUTF8),
        ("2.json", .file (Value.object (Template.plain "b" "[BASE]\"\\\u0007[FIN]").fields).print.toUTF8),
        ("1.json", .file (Template.plain "a" "[BASE]línea\n[FIN]").toValue.printLines.toUTF8)]) =
          .ok catalogue ∧
      catalogue.templates.Perm
        [.plain "b" "[BASE]\"\\\u0007[FIN]", .plain "a" "[BASE]línea\n[FIN]"] ∧
      catalogue.templates.Pairwise fun first second => first.id < second.id := by
  have hnotes : PassedOver ("notes.txt", .file "[BASE]x[FIN]".toUTF8) := by
    refine .otherName ?_
    intro stem hstem hname
    have hjson : extension? "notes.txt" = some "json" :=
      extension?_eq_some_iff.mpr ⟨stem, hstem, by decide, hname⟩
    revert hjson
    decide
  have hold : PassedOver ("old.json", .directory) := .directory
  have hbroken : PassedOver ("broken.json", .file ⟨#[0xff]⟩) := .noText (by decide)
  have hlist : PassedOver ("list.json", .file "[]".toUTF8) := by
    refine .noTemplate ?_
    intro document hread
    obtain rfl : Document.array [] = document := Option.some.inj (.trans (by rfl) hread)
    rfl
  have hfirst {template : Template} : template.StoredAs
      ("2.json", .file (Value.object template.fields).print.toUTF8) :=
    ⟨"2", _, by decide, congrArg (·, _) (by decide), template.writtenAs_print.1⟩
  have hsecond {template : Template} : template.StoredAs
      ("1.json", .file template.toValue.printLines.toUTF8) :=
    ⟨"1", _, by decide, congrArg (·, _) (by decide), template.writtenAs_print.2.2.2⟩
  have hothers := List.forall_mem_cons.mpr ⟨hnotes, List.forall_mem_cons.mpr
    ⟨hold, List.forall_mem_cons.mpr ⟨hbroken, List.forall_mem_singleton.mpr hlist⟩⟩⟩
  exact (load_stored (by decide) (.cons hfirst (.cons hsecond .nil)) hothers
    List.perm_append_comm).2

end Catalogue

end Aviso
