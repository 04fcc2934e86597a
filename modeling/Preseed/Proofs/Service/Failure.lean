import Preseed.Http.Basic
import Preseed.Proofs.Text.OneLine

/-! # The answers to failed requests

The answer to a failed request is a comment whose text tells what others said: a directory server, the
system, the reader of a text, the settings of a plugin, its name. These texts are written as they are, so the
answer is a single line exactly when none of them breaks a line. -/

namespace Preseed

/-! ## What errors say -/

namespace PluginError

theorem message_settings (plugin reason : String) :
    (settings plugin reason).message =
      "Invalid settings for plugin " ++ plugin ++ ": " ++ reason := rfl

theorem message_hook (plugin : String) (place : Hook) (source : PluginError) :
    (PluginError.hook plugin place source).message =
      plugin ++ "::" ++ place.toString ++ " failed: " ++ source.message := rfl

theorem message_execution (text : String) :
    (execution text).message = "Plugin execution error: " ++ text := rfl

theorem message_directory (cause : DirectoryError) :
    (directory cause).message = "Directory error: " ++ cause.message := rfl

theorem message_file (cause : FileError) :
    (file cause).message = "IO error: " ++ cause.message := rfl

theorem message_yaml (text : String) : (yaml text).message = "YAML error: " ++ text := rfl

/-- The texts in an error that others wrote. -/
def texts : PluginError → List String
  | settings plugin reason => [plugin, reason]
  | hook plugin _ source => plugin :: source.texts
  | execution text => [text]
  | directory cause => [cause.message]
  | file cause => [cause.message]
  | yaml text => [text]

theorem isOneLine_message_iff (e : PluginError) :
    IsOneLine e.message ↔ ∀ text ∈ e.texts, IsOneLine text := by
  induction e with
  | settings plugin reason =>
      have hstart : IsOneLine "Invalid settings for plugin " := by decide
      have hcolon : IsOneLine ": " := by decide
      rw [message_settings, texts, List.forall_mem_cons, List.forall_mem_singleton]
      simp only [isOneLine_append, hstart, hcolon, true_and, and_true]
  | hook plugin place source ih =>
      have hcolons : IsOneLine "::" := by decide
      have hplace : IsOneLine place.toString := by cases place <;> decide
      have hfailed : IsOneLine " failed: " := by decide
      rw [message_hook, texts, List.forall_mem_cons]
      simp only [isOneLine_append, hcolons, hplace, hfailed, and_true, ih]
  | execution text =>
      have hstart : IsOneLine "Plugin execution error: " := by decide
      rw [message_execution, texts, List.forall_mem_singleton]
      simp only [isOneLine_append, hstart, true_and]
  | directory cause =>
      have hstart : IsOneLine "Directory error: " := by decide
      rw [message_directory, texts, List.forall_mem_singleton]
      simp only [isOneLine_append, hstart, true_and]
  | file cause =>
      have hstart : IsOneLine "IO error: " := by decide
      rw [message_file, texts, List.forall_mem_singleton]
      simp only [isOneLine_append, hstart, true_and]
  | yaml text =>
      have hstart : IsOneLine "YAML error: " := by decide
      rw [message_yaml, texts, List.forall_mem_singleton]
      simp only [isOneLine_append, hstart, true_and]

end PluginError

namespace ServiceError

/-- The texts in an error that others wrote. -/
def texts : ServiceError → List String
  | directory cause => [cause.message]
  | plugin cause => cause.texts
  | badRequest text => [text]

theorem isOneLine_message_iff (e : ServiceError) :
    IsOneLine e.message ↔ ∀ text ∈ e.texts, IsOneLine text := by
  cases e with
  | directory cause =>
      have hstart : IsOneLine "LDAP Error " := by decide
      simp only [message, isOneLine_append, hstart, true_and, texts, List.forall_mem_singleton]
  | plugin cause =>
      have hstart : IsOneLine "Plugin Error " := by decide
      simp only [message, isOneLine_append, hstart, true_and, texts, cause.isOneLine_message_iff]
  | badRequest text =>
      have hstart : IsOneLine "Bad Request " := by decide
      simp only [message, isOneLine_append, hstart, true_and, texts, List.forall_mem_singleton]

end ServiceError

/-! ## Bodies -/

/-- A comment of one line with the line feed that ends it. -/
def IsCommentLine (s : String) : Prop :=
  ∃ text, s = "# " ++ text ++ "\n" ∧ IsOneLine text

theorem isCommentLine_iff (text : String) : IsCommentLine ("# " ++ text ++ "\n") ↔ IsOneLine text := by
  constructor
  · rintro ⟨other, heq, h⟩
    have heq := congrArg String.toList heq
    simp only [String.toList_append, List.append_cancel_left_eq, List.append_cancel_right_eq] at heq
    rwa [String.toList_inj.mp heq]
  · exact fun h => ⟨text, rfl, h⟩

/-- What is refused before the service is asked is refused in words of its own. -/
theorem Http.isOneLine_of_baseUrl {publicUrl : Option String} {headers : Headers} {path : String}
    {e : ServiceError} (h : Http.baseUrl publicUrl headers path = .error e) :
    ∀ text ∈ e.texts, IsOneLine text := by
  have hurl : ∀ u : UrlError, IsOneLine u.message := by
    intro u
    cases u <;> decide
  unfold Http.baseUrl at h
  split at h
  · split at h
    · cases h
    · cases h
      have hstart : IsOneLine "invalid public_url: " := by decide
      simp only [ServiceError.texts, isOneLine_append, hstart, hurl, and_true, List.forall_mem_singleton]
  · split at h
    · cases h
      simp only [ServiceError.texts, List.forall_mem_singleton]
      decide
    · split at h
      · cases h
      · cases h
        have hstart : IsOneLine "invalid Host header: " := by decide
        simp only [ServiceError.texts, isOneLine_append, hstart, hurl, and_true, List.forall_mem_singleton]

/-- The answer to a failed request is one comment line exactly when no text that the error brought along
breaks a line; it always is for a request that does not reach the service. -/
theorem ServiceError.isCommentLine_body_iff (e : ServiceError) :
    (IsCommentLine e.body ↔ ∀ text ∈ e.texts, IsOneLine text) ∧
    ∀ (publicUrl : Option String) (headers : Headers) (path : String),
      Http.baseUrl publicUrl headers path = .error e → IsCommentLine e.body := by
  have hbody : IsCommentLine e.body ↔ ∀ text ∈ e.texts, IsOneLine text := by
    rw [body, isCommentLine_iff, isOneLine_message_iff]
  exact ⟨hbody, fun publicUrl headers path h => hbody.mpr (Http.isOneLine_of_baseUrl h)⟩

theorem ServiceError.isCommentLine_body_of_missing_host :
    Http.baseUrl none [] "/preseed" = .error (.badRequest "missing Host header") ∧
      IsCommentLine (ServiceError.badRequest "missing Host header").body := by
  have hmissing : Http.baseUrl none [] "/preseed" = .error (.badRequest "missing Host header") := rfl
  exact ⟨hmissing, (ServiceError.isCommentLine_body_iff _).2 none [] "/preseed" hmissing⟩

/-- A directory server that gives its reason in two lines puts the second one outside of the comment. -/
theorem Service.body_breaks_line :
    ¬ ∀ (s : Service Unit) (r : Request) (e : ServiceError),
      (s.handle r).2 = .error e → IsCommentLine e.body := by
  intro h
  let s : Service Unit :=
    { settings := {}, registry := .empty, resolver := .ofAnswers [] [], files := {}
      directory := .unreachable "Can't contact LDAP server\nreboot" }
  let base : Url :=
    { scheme := "http", host := some (.name "install.lab.example"), path := .segments ["preseed"] }
  let r : Request := { ip := .v4 ⟨10, 0, 0, 5⟩, query := "", baseUrl := base }
  have hhandle : (s.handle r).2 =
      .error (.directory (.connect "Can't contact LDAP server\nreboot")) := by rfl
  have hbody := h s r _ hhandle
  rw [ServiceError.body, isCommentLine_iff] at hbody
  exact absurd hbody (by decide)

end Preseed
