import DfsClient.Proofs.Reachable

/-! How long sessions and files live. What no step of a run makes anew or ends stays under its
handle: a session as it is, and a file as those leave it who use it. -/

namespace DfsClient
open Memory

namespace Act

/-- Neither puts another session into a handle nor ends the one that is there. -/
def SparesSession (name : String) : Act → Prop
  | .call _ asked => asked.newSession? ≠ some (some name) ∧ asked.endedSession? ≠ some (some name)
  | _ => True

def SparesFile (name : String) : Act → Prop
  | .call _ asked => asked.newFile? ≠ some (some name) ∧ asked.endedFile? ≠ some (some name)
  | _ => True

/-- Has nothing to do with a file. -/
def PassesFile (name : String) : Act → Prop
  | .call thread asked => SparesFile name (.call thread asked) ∧ asked.usedFile? ≠ some (some name)
  | _ => True

end Act

namespace Holdings

variable {held after : Holdings} {thread : Nat} {call : Call} {answer : Answer} {name : String}

/-- A session that was made is observed as its thread would have it, and bound to a cluster that
the installed engine knows. -/
theorem Changes.made_session (changes : Changes thread held call (.handle true) after)
    (makes : call.newSession? = some (some name)) :
    ∃ session, after.sessions.get? name = some session ∧
      session.observer = held.sessionObserver thread ∧
      ∃ id, held.world.Registered held.world.installed id ∧ session.cluster = some id := by
  cases changes with
  | @connects into session asks engine observer bound =>
    cases makes.symm.trans asks
    exact ⟨session, Table.get?_update_same .., observer, bound⟩
  | opens asks => cases makes.symm.trans (Call.plain_opens asks (.handle true)).1
  | uses asks => cases makes.symm.trans (Call.plain_uses asks (.handle true)).1
  | nothing idle => cases makes.symm.trans idle.plain.1

theorem Changes.opened_file (changes : Changes thread held call (.handle true) after)
    (makes : call.newFile? = some (some name)) :
    ∃ file, after.files.get? name = some file ∧ file.observer = held.fileObserver thread := by
  cases changes with
  | connects asks => cases (Call.plain_opens makes (.handle true)).1.symm.trans asks
  | @opens into file asks position observer content =>
    cases makes.symm.trans asks
    exact ⟨file, Table.get?_update_same .., observer⟩
  | uses asks => cases makes.symm.trans (Call.idle_uses asks (.handle true)).opens
  | nothing idle => cases makes.symm.trans idle.opens

theorem Changes.session_stays (changes : Changes thread held call answer after)
    (spares : (Act.call thread call).SparesSession name) :
    after.sessions.get? name = held.sessions.get? name := by
  obtain ⟨makes, ends⟩ := spares
  cases changes with
  | connects asks | connectsNot asks =>
    apply Table.get?_update_other
    rintro rfl
    exact makes asks
  | disconnects asks =>
    apply Table.get?_update_other
    intro same
    cases same
    exact ends asks
  | _ => rfl

theorem Changes.file_stays {file : File} (changes : Changes thread held call answer after)
    (spares : (Act.call thread call).SparesFile name) (there : held.files.get? name = some file) :
    ∃ moved, after.files.get? name = some moved ∧ file.Moves moved ∧
      (call.usedFile? ≠ some (some name) → moved = file) := by
  obtain ⟨makes, ends⟩ := spares
  have untouched {handle : Handle} {got : Option File} (other : handle ≠ some name) :
      ∃ moved, (held.keepFile handle got).files.get? name = some moved ∧ file.Moves moved ∧
        (call.usedFile? ≠ some (some name) → moved = file) :=
    ⟨file, (Table.get?_update_other held.files got other).trans there, .refl file, fun _ => rfl⟩
  cases changes with
  | opens asks | opensNot asks =>
    apply untouched
    rintro rfl
    exact makes asks
  | closes asks =>
    apply untouched
    rintro rfl
    exact ends asks
  | @uses _ handle before moved asks found moves =>
    by_cases same : handle = some name
    · subst same
      have itself : file = before := Option.some.inj (there.symm.trans found)
      subst itself
      exact ⟨moved, Table.get?_update_same .., moves, fun other => absurd asks other⟩
    · exact untouched same
  | _ => exact ⟨file, there, .refl file, fun _ => rfl⟩

end Holdings

namespace Client

variable {name : String} [Formats]

theorem act_session_stays (client : Client engine) {act : Act} (spares : act.SparesSession name) :
    (client.act act).2.sessions.get? name = client.sessions.get? name := by
  obtain ⟨thread, call, rfl⟩ | ⟨-, edited⟩ := act_edits client act
  · exact (call_changes client thread call).session_stays spares
  · exact congrArg (fun held => held.sessions.get? name) edited

theorem act_file_stays (client : Client engine) {act : Act} (spares : act.SparesFile name)
    {file : File} (there : client.files.get? name = some file) :
    ∃ moved : File, (client.act act).2.files.get? name = some moved ∧ file.Moves moved := by
  obtain ⟨thread, call, rfl⟩ | ⟨-, edited⟩ := act_edits client act
  · obtain ⟨moved, found, moves, -⟩ := (call_changes client thread call).file_stays spares there
    exact ⟨moved, found, moves⟩
  · exact ⟨file, (congrArg (fun held => held.files.get? name) edited).trans there, .refl file⟩

theorem act_file_passed (client : Client engine) {act : Act} (passes : act.PassesFile name)
    {file : File} (there : client.files.get? name = some file) :
    (client.act act).2.files.get? name = some file := by
  obtain ⟨thread, call, rfl⟩ | ⟨-, edited⟩ := act_edits client act
  · obtain ⟨moved, found, -, same⟩ := (call_changes client thread call).file_stays passes.1 there
    rw [same passes.2] at found
    exact found
  · exact (congrArg (fun held => held.files.get? name) edited).trans there

theorem acts_session_stays (client : Client engine) (later : List Act)
    (spares : ∀ act ∈ later, act.SparesSession name) :
    (client.acts later).2.sessions.get? name = client.sessions.get? name := by
  refine acts_induction_of (fun reached => reached.sessions.get? name = client.sessions.get? name)
    (fun reached act spared same => ?_) client later spares rfl
  exact (act_session_stays reached spared).trans same

theorem acts_file_stays (client : Client engine) (later : List Act)
    (spares : ∀ act ∈ later, act.SparesFile name) {file : File}
    (there : client.files.get? name = some file) :
    ∃ moved : File, (client.acts later).2.files.get? name = some moved ∧ file.Moves moved := by
  refine acts_induction_of (fun reached => ∃ moved : File, reached.files.get? name = some moved ∧
    file.Moves moved) (fun reached act spared kept => ?_) client later spares ⟨file, there, .refl file⟩
  obtain ⟨moved, found, moves⟩ := kept
  obtain ⟨last, found, further⟩ := act_file_stays reached spared found
  exact ⟨last, found, moves.trans further⟩

end Client
end DfsClient
