import ChatGateway.Activity.Build
import ChatGateway.Proofs.RoundTrip
import ChatGateway.Proofs.Uri

/-! Streams on the wire. A stream may have any absolute link, but only URIs are accepted from the
wire: a stream is read back exactly if its link is plain. -/
namespace ChatGateway
namespace Activity

/-- A stream at a link. -/
def stream (name url : String) : Value :=
  named ActivityKind.streaming (.text name) [("url", .text url)]

/-- What a stream is written as. -/
def streamText (name url : String) : Value := .record [
  ("application_id", .null), ("assets", .null), ("details", .null), ("flags", .null),
  ("instance", .null), ("type", .number ActivityKind.streaming), ("name", .text name),
  ("party", .null), ("secrets", .null), ("state", .null), ("emoji", .null), ("timestamps", .null),
  ("sync_id", .null), ("session_id", .null), ("url", .text url), ("buttons", .list [])]

variable {name url : String}

theorem write_stream (name url : String) :
    form.write (stream name url) = .ok (streamText name url) :=
  rfl

theorem streaming_eq_ok {activity : Value}
    (built : streaming (.text name) (.text url) = .ok activity) :
    ∃ link, Url.ofText? url = some link ∧ activity = stream name link.href := by
  have sentence : (Value.text url).sentence = .ok url := rfl
  rw [streaming, sentence] at built
  cases read : Url.ofText? url with
  | none =>
    simp only [read, bind, Except.bind] at built
    contradiction
  | some link =>
    simp only [read, bind, Except.bind] at built
    exact ⟨link, rfl, (Except.ok.inj built).symm⟩

/-- The link is all that can be wrong with a stream. -/
theorem check_streamText (name url : String) : Schema.activity.check (streamText name url) =
    (TextForm.uri.violations url).map fun violation =>
      ⟨Path.field [] "url", violation, .text url⟩ := by
  have sections : Schema.activity.check (streamText name url) =
      ((TextForm.uri.violations url).map fun violation =>
        ⟨Path.field [] "url", violation, .text url⟩) ++ [] := rfl
  rw [sections, List.append_nil]

theorem isJson_streamText (name url : String) : (streamText name url).IsJson := by
  simp [streamText]

theorem holds_stream (nonempty : url ≠ "") (uri : Uri.accepts url = true) :
    RecordType.activity.layout.Holds (stream name url) := by
  simp [RecordType.layout, stream, named, Layout.activity, Layout.required, Layout.optional,
    Layout.Holds, Layout.FieldsHold, Atom.Holds, Leaf.Holds, Value.get, List.lookup_cons, uri,
    nonempty]
  decide

/-- A stream at a URI comes back from the wire. -/
theorem decode_streamText (nonempty : url ≠ "") (uri : Uri.accepts url = true)
    (context : Option Context) : ∃ decoded,
      (decode (streamText name url) context).outcome = .ok decoded ∧
      decoded.Same (stream name url) := by
  obtain ⟨wire, written, admitted, payload, same⟩ := Layout.writes_of_holds
    RecordType.activity.coherent_layout (@holds_stream name url nonempty uri)
  rw [RecordType.form_layout] at written
  obtain rfl : streamText name url = wire := Except.ok.inj written
  have fits : Schema.activity.Fits (streamText name url) :=
    Layout.fits_of_admits RecordType.activity.required_layout admitted
  exact ⟨_, @RecordType.outcome_decode_of_fits .activity (.within context)
    (RecordType.configured_of_ne (by decide)) _ (Schema.breaksDown_of_isPayload payload) fits, same⟩

/-- A stream at any other link is refused for the link. -/
theorem decode_streamText_refused (nonempty : url ≠ "") (other : Uri.accepts url = false)
    (context : Option Context) : ∃ error,
      (decode (streamText name url) context).outcome = .error (.decode error) ∧
      error.details = [⟨"url", "string.uri", "\"url\" must be a valid uri", .text url⟩] := by
  have violations : TextForm.uri.violations url = [.notUri] := by
    simp [TextForm.violations, String.isEmpty_iff, nonempty, other]
  have problems : Schema.activity.report "activity" (streamText name url) =
      [⟨"url", "string.uri", "\"url\" must be a valid uri", .text url⟩] := by
    rw [Schema.report, check_streamText, violations]
    rfl
  have misfit : ¬ Schema.activity.Fits (streamText name url) := by
    intro fits
    rw [Schema.report_eq_nil_iff.mpr fits] at problems
    contradiction
  refine ⟨_, @RecordType.outcome_decode_of_not_fits .activity _
    (.inr (isJson_streamText name url)) misfit (.within context), ?_⟩
  exact problems

/-- Every stream that can be built is written, at the link in its normal form. What was written is
accepted exactly if the link is plain; then it stands for the same stream, and else the only problem
is that the link is no URI. -/
theorem decode_streaming {activity : Value}
    (built : streaming (.text name) (.text url) = .ok activity) (context : Option Context) :
    ∃ link wire, Url.ofText? url = some link ∧ activity = stream name link.href ∧
      form.write activity = .ok wire ∧
      (link.Plain → ∃ decoded, (decode wire context).outcome = .ok decoded ∧
        decoded.Same activity) ∧
      (¬ link.Plain → ∃ error, (decode wire context).outcome = .error (.decode error) ∧
        error.details =
          [⟨"url", "string.uri", "\"url\" must be a valid uri", .text link.href⟩]) := by
  obtain ⟨link, read, rfl⟩ := streaming_eq_ok built
  have accepted := Url.accepts_href_iff (Url.ofText?_sound read)
  have nonempty : link.href ≠ "" := by
    rw [ne_eq, ← String.toList_eq_nil_iff, Url.toList_href]
    simp
  refine ⟨link, streamText name link.href, read, rfl, write_stream name link.href, ?_, ?_⟩
  · intro plain
    exact decode_streamText nonempty (accepted.mpr plain) context
  · intro stray
    have other : Uri.accepts link.href = false :=
      Bool.eq_false_iff.mpr fun uri => stray (accepted.mp uri)
    exact decode_streamText_refused nonempty other context

theorem streaming_of_read {link : Url} (read : Url.ofText? url = some link) :
    streaming (.text name) (.text url) = .ok (stream name link.href) := by
  have sentence : (Value.text url).sentence = .ok url := rfl
  simp only [streaming, sentence, bind, Except.bind, read]
  rfl

/-- The path `b` at a host. -/
def simple : Url := { scheme := "http", host := some (.domain "a"), route := .segments ["b"] }

/-- A path with a bar in it, which links keep as it is. -/
def barred : Url := { scheme := "http", host := some (.domain "a"), route := .segments ["b|c"] }

/-- Two streams are built and written, and one of them is accepted back. -/
theorem decode_streaming_barred :
    (∃ decoded, (decode (streamText "Run" "http://a/b") none).outcome = .ok decoded ∧
      decoded.Same (stream "Run" "http://a/b")) ∧
    streaming (.text "Run") (.text "http://a/b|c") = .ok (stream "Run" "http://a/b|c") ∧
    form.write (stream "Run" "http://a/b|c") = .ok (streamText "Run" "http://a/b|c") ∧
    ∃ error, (decode (streamText "Run" "http://a/b|c") none).outcome = .error (.decode error) ∧
      error.details =
        [⟨"url", "string.uri", "\"url\" must be a valid uri", .text "http://a/b|c"⟩] := by
  constructor
  · have read : Url.ofText? "http://a/b" = some simple := by decide +kernel
    have href : simple.href = "http://a/b" := by decide +kernel
    have built := @streaming_of_read "Run" _ _ read
    rw [href] at built
    obtain ⟨link, wire, again, _, written, accepted, _⟩ := decode_streaming built none
    obtain rfl : simple = link := Option.some.inj (read.symm.trans again)
    obtain rfl : streamText "Run" "http://a/b" = wire := Except.ok.inj written
    have plain : simple.Plain := by
      refine ⟨.inr ?_, ?_, ?_, nofun, nofun⟩
      · decide +kernel
      · rintro _ ⟨⟩
        exact ⟨by decide, List.forall_iff_forall_mem.mp (by decide +kernel)⟩
      · exact List.forall_iff_forall_mem.mp (by decide +kernel)
    exact accepted plain
  · have read : Url.ofText? "http://a/b|c" = some barred := by decide +kernel
    have href : barred.href = "http://a/b|c" := by decide +kernel
    have built := @streaming_of_read "Run" _ _ read
    rw [href] at built
    obtain ⟨link, wire, again, _, written, _, refused⟩ := decode_streaming built none
    obtain rfl : barred = link := Option.some.inj (read.symm.trans again)
    obtain rfl : streamText "Run" "http://a/b|c" = wire := Except.ok.inj written
    have stray : ¬ barred.Plain := by
      intro plain
      have bar : '|' ∈ barred.route.text.toList := by decide +kernel
      exact plain.route '|' bar (by decide)
    rw [href] at refused
    exact ⟨built, written, refused stray⟩

end Activity
end ChatGateway
