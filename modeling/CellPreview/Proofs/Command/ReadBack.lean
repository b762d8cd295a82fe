import CellPreview.Proofs.Command.Samples
import CellPreview.Proofs.Rendering.Page

/-!
# Pages read back

A request to render an accepted document writes the page of the rows of its
blueprint, with the samples of the options or else those of the profile that it
selects. The page is read back as these rows when the samples are harmless.
-/

namespace CellPreview
namespace Command

variable {surroundings : Surroundings}
variable {request : Request}
variable {options : RenderOptions}
variable {found : Settings}
variable {profile : Profile}
variable {input text : Text}
variable {blueprint : Option Blueprint}

/-- A request to render an accepted document as HTML comes to a result, and what
it writes is read back as one comment for each row, with its cell after it, if
no sample ends a comment and, without a blueprint, none needs escaping. It is
not read back so if a sample ends a comment. -/
theorem rendering_is_read_as_rows
    (selects : request.Selects options surroundings found profile)
    (isText : surroundings.text (.ofPath input) = .ok text)
    (isRead : Blueprint.read text = .ok blueprint)
    (isHtml : options.output.getD found.output = .html)
    (indentBlank : ∀ char ∈ found.indent, Text.isBlank char) :
    let outcome := (request.toRender input options).job.run surroundings
    let samples := samplesFor options profile
    let rows := Row.ofSamples blueprint samples
      (previewInstant surroundings found options)
    outcome.result = .ok () ∧
      ((∀ sample ∈ samples, IsHarmlessSample blueprint sample) ->
        Row.AreReadFrom rows outcome.written) ∧
      (Row.AreReadFrom rows outcome.written ->
        ∀ sample ∈ samples, Markup.TagReader.EndsNoComment sample) := by
  intro outcome samples rows
  have delivers := selects.delivers isText
  rw [rendered, isRead, isHtml] at delivers
  obtain ⟨succeeds, isPage⟩ :
      outcome.result = .ok () ∧
        outcome.written = Row.listHtml found.indent rows := delivers
  refine ⟨succeeds, fun areHarmless => ?_, fun areRead => areRead.endsNoComment⟩
  rw [isPage]
  exact Row.areReadFrom_listHtml indentBlank
    (Row.isHarmless_of_mem_ofSamples areHarmless)

/-- A tag and an ampersand in the samples of a profile, which a blueprint
shows. -/
theorem rendering_is_read_as_rows_tag :
    let document : Text :=
      "\x7b\"elmType\":\"b\",\"txtContent\":\"@currentField\"\x7d"
    let blueprint : Blueprint :=
      .element (some "b".toList) (some "@currentField".toList) [] [] []
    let profiles : Text :=
      ['[', '[', '"', 'N', '"', ',', '"', '"', ',', '{', '}', ',', '[', '"',
        '<', 'i', '>', '"', ',', '"', '&', '"', ']', ']', ']']
    let samples : List Text := [['<', 'i', '>'], ['&']]
    let profile : Profile := ⟨['N'], [], .object [], samples⟩
    let surroundings : Surroundings := ⟨fun source => .ok <|
      if source = .file "c.toml" then "profiles=\"p\""
      else if source = .file "p" then profiles
      else document, 0⟩
    let request : Request := ⟨some "c.toml", 0, .templates⟩
    let options : RenderOptions := ⟨some ['n'], [], none, none⟩
    let found : Settings := { Settings.default with profiles := some "p" }
    let outcome := (request.toRender "b.json" options).job.run surroundings
    request.Selects options surroundings found profile ∧
      surroundings.text (.ofPath "b.json") = .ok document ∧
      Blueprint.read document = .ok (some blueprint) ∧
      options.output.getD found.output = .html ∧
      (∀ char ∈ found.indent, Text.isBlank char) ∧
      samplesFor options profile = samples ∧
      (∀ sample ∈ samples, IsHarmlessSample (some blueprint) sample) ∧
      outcome.result = .ok () ∧
      Row.AreReadFrom (Row.ofSamples (some blueprint) samples 0)
        outcome.written := by
  intro document blueprint profiles samples profile surroundings request options
    found outcome
  have selects : request.Selects options surroundings found profile :=
    ⟨by decide +kernel, _,
      result_profiles rfl rfl (by with_unfolding_all rfl),
      Profile.selected?_builtin_append (by decide +kernel) rfl []⟩
  have isText : surroundings.text (.ofPath "b.json") = .ok document := rfl
  have isRead : Blueprint.read document = .ok (some blueprint) := by
    decide +kernel
  have indentBlank : ∀ char ∈ found.indent, Text.isBlank char :=
    List.all_eq_true.mp rfl
  have areHarmless :
      ∀ sample ∈ samples, IsHarmlessSample (some blueprint) sample := by
    have endNone :
        ∀ sample ∈ samples, Markup.TagReader.EndsNoComment sample := by
      decide +kernel
    exact fun sample present => ⟨endNone sample present, nofun⟩
  obtain ⟨succeeds, areRead, _⟩ :=
    rendering_is_read_as_rows selects isText isRead rfl indentBlank
  exact ⟨selects, isText, isRead, rfl, indentBlank, rfl, areHarmless, succeeds,
    areRead areHarmless⟩

/-- A sample that is a tag is a tag on the page of a blank document, and one that
ends its comment goes on as markup on the page of any other. -/
theorem rendering_shows_samples_as_markup :
    let blank : Surroundings := ⟨fun _ => .ok [], 0⟩
    let document : Surroundings := ⟨fun _ => .ok "\x7b\"elmType\":\"i\"\x7d", 0⟩
    let blueprint : Blueprint := .element (some ['i']) none [] [] []
    let request (sample : Text) : Request :=
      ⟨none, 0, .render "b.json" ⟨none, [sample], none, none⟩⟩
    let raw := (request "<b>").job.run blank
    let commented := (request "--><b>").job.run document
    (raw.result = .ok () ∧ commented.result = .ok ()) ∧
      (Settings.default.output = .html ∧
        ∀ char ∈ Settings.default.indent, Text.isBlank char) ∧
      Blueprint.read [] = .ok none ∧
      raw.written = "<!-- Item 1: <b> -->\n<b>\n".toList ∧
      ¬Row.AreReadFrom (Row.ofSamples none ["<b>".toList] 0) raw.written ∧
      Blueprint.read "\x7b\"elmType\":\"i\"\x7d" = .ok (some blueprint) ∧
      commented.written = "<!-- Item 1: --><b> -->\n<i />\n".toList ∧
      ¬Row.AreReadFrom (Row.ofSamples (some blueprint) ["--><b>".toList] 0)
        commented.written := by
  intro blank document blueprint request raw commented
  refine ⟨by decide +kernel, ⟨rfl, List.all_eq_true.mp rfl⟩,
    by decide +kernel, by decide +kernel, ?_, by decide +kernel,
    by decide +kernel, ?_⟩
  · rintro ⟨found, isPage, _⟩
    have noPage : (Markup.TagReader.readPage? raw.written).isNone := by
      decide +kernel
    rw [isPage] at noPage
    cases noPage
  · intro areRead
    have ends : ¬Markup.TagReader.EndsNoComment "--><b>" := by decide +kernel
    exact ends (areRead.endsNoComment _ List.mem_cons_self)

end Command
end CellPreview
