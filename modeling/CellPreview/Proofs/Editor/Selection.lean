import CellPreview.Proofs.Editor.LastGood
import CellPreview.Proofs.Profile.Documents

/-!
# Selecting profiles

The text of a profile is read back as the document it was written from. So the
editor shows a selected profile as if its document had been taken as it is, and
it does so from every state, also from one with a fault.
-/

namespace CellPreview

namespace Profile

variable {profile : Profile}

theorem IsAvailable.read_editorText
    (available : profile.IsAvailable) :
    Json.read profile.editorText = .ok profile.document :=
  Json.read_pretty available.isReadable

/-- The text of a profile is laid out already. -/
theorem IsAvailable.beautify_editorText
    (available : profile.IsAvailable) :
    Json.beautify profile.editorText = profile.editorText :=
  Json.reformatWith_of_read_eq_ok _ available.read_editorText

end Profile

namespace Editor

variable {editor : Editor} {profile : Profile}

/-- A profile is selected and its document is shown, without a fault. -/
structure Shows (editor : Editor) (index : Nat) (profile : Profile) : Prop where
  selected_eq : editor.selected = index
  text_eq : editor.text = profile.editorText
  fault_eq : editor.fault = none
  blueprint_eq : editor.blueprint = some (Blueprint.ofValue profile.document)

/-- Loading the text of a profile, whatever there was before. -/
theorem shows_setText
    (editor : Editor)
    (available : profile.IsAvailable) :
    (editor.setText profile.editorText).Shows editor.selected profile := by
  rw [setText_of_document_eq_ok
    (Json.document_of_read available.read_editorText)]
  exact ⟨rfl, rfl, rfl, rfl⟩

theorem select?_of_getElem?
    {index : Nat}
    (found : editor.profiles[index]? = some profile) :
    editor.select? index =
      some ({ editor with selected := index }.setText profile.editorText) := by
  rw [select?, found]
  rfl

theorem select?_eq_none
    {index : Nat}
    (outside : editor.profiles.length ≤ index) :
    editor.select? index = none := by
  rw [select?, List.getElem?_eq_none outside]
  rfl

end Editor

namespace Session

/-- With the built-in profiles and those of any files, every profile can be
selected at any time, and is then shown as its document says; so is the selected
profile after a reset. Beautifying the text of a profile changes nothing, and
an index without a profile is refused and changes nothing either. -/
theorem selection_shows_profile
    (profiles : List Profile)
    (available : ∀ profile ∈ profiles, profile.IsAvailable)
    (actions : List Action) :
    let session := (start profiles).run actions
    (∀ index, ∀ inRange : index < profiles.length,
      session.reply (.select index) = .done ∧
        (session.perform (.select index)).editor.Shows index profiles[index]) ∧
    (profiles ≠ [] -> ∃ profile, session.editor.profile? = some profile ∧
      (session.perform .reset).editor.Shows session.editor.selected profile) ∧
    (∀ profile ∈ profiles,
      Json.beautify profile.editorText = profile.editorText) ∧
    ∀ index, profiles.length ≤ index ->
      session.reply (.select index) = .noSuchProfile index ∧
        session.perform (.select index) = session := by
  intro session
  have sound : session.editor.Sound profiles ((start profiles).texts actions) :=
    sound_run_start profiles actions
  refine ⟨?_, ?_, ?_, ?_⟩
  · intro index inRange
    have found : session.editor.profiles[index]? = some profiles[index] := by
      rw [sound.profiles_eq]
      exact List.getElem?_eq_getElem inRange
    rw [reply, perform, Editor.select?_of_getElem? found]
    exact ⟨rfl, Editor.shows_setText _
      (available _ (List.getElem_mem inRange))⟩
  · intro hasProfiles
    have inRange := sound.selected_lt hasProfiles
    have found : session.editor.profile? =
        some profiles[session.editor.selected] := by
      rw [Editor.profile?, sound.profiles_eq]
      exact List.getElem?_eq_getElem inRange
    refine ⟨_, found, ?_⟩
    rw [perform, Editor.reset, found]
    exact Editor.shows_setText _ (available _ (List.getElem_mem inRange))
  · intro profile present
    exact (available profile present).beautify_editorText
  · intro index outside
    rw [← sound.profiles_eq] at outside
    rw [reply, perform, Editor.select?_eq_none outside]
    exact ⟨rfl, rfl⟩

/-- A built-in profile and one of a file, after a text with a fault. -/
theorem selection_shows_profile_of_file :
    let listed : Profile := ⟨['N'], [], .list [], [['1']]⟩
    let profiles := [Profile.Builtin.yesNoBadge, listed]
    let session := (start profiles).run [.setText ['[']]
    (∀ profile ∈ profiles, profile.IsAvailable) ∧
      session.editor.fault ≠ none ∧
      (session.perform (.select 1)).editor.Shows 1 listed ∧
      (∃ profile, session.editor.profile? = some profile ∧
        (session.perform .reset).editor.Shows session.editor.selected profile) ∧
      Json.beautify listed.editorText = listed.editorText ∧
      session.perform (.select 2) = session := by
  intro listed
  have isRead : Profile.readAll
      ['[', '[', '"', 'N', '"', ',', '"', '"', ',', '[', ']', ',',
        '[', '"', '1', '"', ']', ']', ']'] = .ok [listed] := by
    with_unfolding_all rfl
  intro profiles session
  have isFaulty : session.editor.fault ≠ none := by
    have fault_eq : session.editor.fault = Json.fault? ['['] :=
      Editor.setText_fault (start profiles).editor ['[']
    rw [fault_eq]
    decide +kernel
  have available : ∀ profile ∈ profiles, profile.IsAvailable := by
    intro profile present
    obtain rfl | present := List.mem_cons.mp present
    · exact .inl (by simp [Profile.builtin])
    · exact .inr ⟨_, _, isRead, present⟩
  obtain ⟨selects, resets, laidOut, refuses⟩ :=
    selection_shows_profile profiles available [.setText ['[']]
  exact ⟨available, isFaulty, (selects 1 Nat.one_lt_two).2,
    resets (List.cons_ne_nil _ _),
    laidOut listed (List.mem_cons_of_mem _ List.mem_cons_self),
    (refuses 2 (Nat.le_refl 2)).2⟩

end Session
end CellPreview
