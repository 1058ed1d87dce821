import FlashPatch.Image
import FlashPatch.Proofs.Preparation.Readable

/-!
# What a task does to an image

On a device that serves every call and takes all bytes, a task has one of four effects on the
contents: it puts a header in front of them, it marks them, it only looks at them, or it fails and
leaves them as they are. The device goes on serving. Only putting a header in front of them takes
such a device: the other tasks do not write to theirs.
-/

namespace FlashPatch

namespace ImageTask

/-- Whether the task has a result in the session. -/
def Succeeds (task : ImageTask) (session : Session) : Prop :=
  ∃ answer, (task.perform.run.run session).1 = .ok answer

/-- What can happen to the contents in a task with a result or an error. -/
inductive Effect (before : List UInt8) :
    ImageTask → Except PatchError ImageAnswer → List UInt8 → Prop
  | prepended {config : Config} {encoded : EncodedHeader} {answer : ImageAnswer}
      (h : config.encode (UInt64.ofNat before.length) = .ok encoded) :
      Effect before (.prepend config) (.ok answer) (encoded.bytes ++ before)
  | marked {format : Format} {contents : List UInt8} {answer : ImageAnswer}
      (h : Partition.markApplied before format = .ok contents) :
      Effect before (.markApplied format) (.ok answer) contents
  | looked {task : ImageTask} {answer : ImageAnswer} (hp : ∀ config, task ≠ .prepend config)
      (hm : ∀ format, task ≠ .markApplied format) : Effect before task (.ok answer) before
  | failed {task : ImageTask} {cause : PatchError} : Effect before task (.error cause) before

/-! ## Single tasks -/

private theorem run_prepend (config : Config) (session : Session) :
    (prepend config).perform.run.run session =
      (((prependHeader config).run.run session).1.map .report,
        ((prependHeader config).run.run session).2) :=
  Task.run_bind_pure (prependHeader config) ImageAnswer.report session

/-- Marking sets the contents and nothing else, and does nothing if it fails. -/
theorem run_markApplied (format : Format) (session : Session) :
    (markApplied format).perform.run.run session =
      match Partition.markApplied session.device.contents format with
      | .ok contents =>
        (.ok .done, { session with device := { session.device with contents } })
      | .error cause => (.error (.header cause), session) := by
  rw [perform, Task.run_get_bind, Task.run_bind, Session.run_onHeader]
  cases Partition.markApplied session.device.contents format with
  | ok contents => rfl
  | error cause => rfl

/-- Decoding only looks at the contents. -/
theorem run_decode (format : Format) (requested : Int64) (session : Session) :
    (decode format requested).perform.run.run session =
      (((Header.decode session.device.contents format requested).mapError .header).map .header,
        session) := by
  rw [perform, Task.run_get_bind, Task.run_bind_pure, Session.run_onHeader]

/-- Telling the state only looks at the contents. -/
theorem run_inspect (format : Format) (requested : Int64) (session : Session) :
    (inspect format requested).perform.run.run session =
      (((Partition.inspect session.device.contents format requested).mapError .header).map .state,
        session) := by
  rw [perform, Task.run_get_bind, Task.run_bind_pure, Session.run_onHeader]

private theorem run_readHeader (format : Format) (requested : Int64) (session : Session) :
    (readHeader format requested).perform.run.run session =
      (((FlashPatch.readHeader format requested).run.run session).1.map .header,
        ((FlashPatch.readHeader format requested).run.run session).2) :=
  Task.run_bind_pure (FlashPatch.readHeader format requested) ImageAnswer.header session

private theorem run_seek (position : Nat) (session : Session) :
    (seek position).perform.run.run session =
      ((((Device.seek position).run.run session.device).1.mapError .storage).map fun _ ↦ .done,
        { session with device := ((Device.seek position).run.run session.device).2 }) := by
  have h := Task.run_bind_pure (Session.onDevice (Device.seek position)) (fun _ ↦ ImageAnswer.done)
    session
  rw [Session.run_onDevice] at h
  exact h

/-! ## Effects -/

private theorem effect_of_unchanged {task : ImageTask} {before after : List UInt8}
    (result : Except PatchError ImageAnswer) (hp : ∀ config, task ≠ .prepend config)
    (hm : ∀ format, task ≠ .markApplied format) (h : after = before) :
    Effect before task result after := by
  subst h
  cases result with
  | ok answer => exact .looked hp hm
  | error cause => exact .failed

private theorem contents_seek (position : Nat) (device : Device) :
    ((Device.seek position).run.run device).2.contents = device.contents := by
  rw [Device.run_seek]
  split <;> rfl

/-- A task that puts no header in front of the contents has one of the effects on any device. -/
theorem effect_of_ne_prepend {task : ImageTask} (h : ∀ config, task ≠ .prepend config)
    (session : Session) :
    Effect session.device.contents task (task.perform.run.run session).1
      (task.after session).device.contents := by
  rw [after]
  cases task with
  | prepend config => exact absurd rfl (h config)
  | markApplied format =>
    rw [run_markApplied]
    cases hm : Partition.markApplied session.device.contents format with
    | ok contents => exact .marked hm
    | error cause => exact .failed
  | decode format requested =>
    rw [run_decode]
    exact effect_of_unchanged _ h (by simp) rfl
  | inspect format requested =>
    rw [run_inspect]
    exact effect_of_unchanged _ h (by simp) rfl
  | readHeader format requested =>
    rw [run_readHeader]
    have hkept := (Session.kept_by_readHeader format requested session).2.1
    exact effect_of_unchanged _ h (by simp) hkept
  | seek position =>
    rw [run_seek]
    exact effect_of_unchanged _ h (by simp) (contents_seek position session.device)

/-- Every task on a steady device has one of the effects. -/
theorem effect_perform (task : ImageTask) {session : Session} (hs : session.device.Steady) :
    Effect session.device.contents task (task.perform.run.run session).1
      (task.after session).device.contents := by
  by_cases hp : ∃ config, task = .prepend config
  · obtain ⟨config, rfl⟩ := hp
    rw [after, run_prepend]
    cases he : config.encode (UInt64.ofNat session.device.contents.length) with
    | ok encoded =>
      obtain ⟨hrun, hcontents, -⟩ := prependHeader_of_encode hs.1 hs.2 he
      simp only [hrun, hcontents]
      exact .prepended he
    | error cause =>
      obtain ⟨hrun, hcontents, -⟩ := prependHeader_of_encode_error hs.1 he
      simp only [hrun, hcontents]
      exact .failed
  · exact effect_of_ne_prepend (fun config h ↦ hp ⟨config, h⟩) session

/-- On a steady device, a header is put in front of the contents exactly if it can be written. -/
theorem succeeds_prepend_iff {config : Config} {session : Session}
    (hs : session.device.Steady) : (prepend config).Succeeds session ↔
      ∃ header, config.encode (UInt64.ofNat session.device.contents.length) = .ok header := by
  rw [Succeeds, run_prepend]
  cases he : config.encode (UInt64.ofNat session.device.contents.length) with
  | ok header =>
    rw [(prependHeader_of_encode hs.1 hs.2 he).1]
    exact iff_of_true ⟨_, rfl⟩ ⟨header, rfl⟩
  | error cause =>
    rw [(prependHeader_of_encode_error hs.1 he).1]
    simp [Except.map]

/-- On a steady device, a header that can be written comes in front of the contents. -/
theorem contents_of_encode {config : Config} {session : Session} {header : EncodedHeader}
    (hs : session.device.Steady)
    (he : config.encode (UInt64.ofNat session.device.contents.length) = .ok header) :
    ((prepend config).after session).device.contents =
      header.bytes ++ session.device.contents := by
  rw [after, run_prepend]
  exact (prependHeader_of_encode hs.1 hs.2 he).2.1

/-- On a steady device, a task without a result changes no byte. -/
theorem contents_of_not_succeeds {task : ImageTask} {session : Session}
    (hs : session.device.Steady) (h : ¬task.Succeeds session) :
    (task.after session).device.contents = session.device.contents := by
  have heffect := effect_perform task hs
  cases hr : (task.perform.run.run session).1 with
  | ok answer => exact absurd ⟨answer, hr⟩ h
  | error cause =>
    rw [hr] at heffect
    generalize (task.after session).device.contents = contents at heffect ⊢
    cases heffect
    rfl

/-! ## Steadiness -/

private theorem continues_prependHeader (config : Config) (session : Session) :
    session.device.Continues ((prependHeader config).run.run session).2.device := by
  cases he : config.encode (UInt64.ofNat session.device.contents.length) with
  | ok encoded =>
    obtain ⟨result, hw, -⟩ := rewritten_of_encode he
    exact hw.toContinues
  | error cause =>
    obtain ⟨result, -, hreports, -⟩ := reread_of_encode_error he
    exact hreports.toContinues

/-- Every task leaves a steady device steady. -/
theorem steady_after (task : ImageTask) {session : Session} (hs : session.device.Steady) :
    (task.after session).device.Steady := by
  rw [after]
  cases task with
  | prepend config =>
    rw [run_prepend]
    exact (continues_prependHeader config session).steady hs
  | markApplied format =>
    rw [run_markApplied]
    cases Partition.markApplied session.device.contents format with
    | ok contents => exact hs
    | error cause => exact hs
  | decode format requested =>
    rw [run_decode]
    exact hs
  | inspect format requested =>
    rw [run_inspect]
    exact hs
  | readHeader format requested =>
    rw [run_readHeader]
    exact (Session.kept_by_readHeader format requested session).1.steady hs
  | seek position =>
    rw [run_seek]
    exact (Device.reporting_seek position session.device).toContinues.steady hs

end ImageTask

end FlashPatch
