import Kubinate.Clusters.Model
import Kubinate.Library.Implementation
import Kubinate.Platform.Text

/-!
# The command line tools

`OpensshExecutor` and `KubectlCliExecutor` of `crates/integrations` start processes for a call and
judge them by their exit status and by what they have written to their standard error. What a
process does, and how it ends, is left open.

* `OpensshExecutor.attempts_of_reaches`: how often a remote command is started, and what is
  returned.
* `KubectlCliExecutor.accepts`: when a node counts as drained or deleted.
-/

namespace Kubinate.Integrations

open Platform Clusters Library

/-- What is started, and the kubeconfig in its environment. -/
structure CommandLine where
  program : String
  args : List String
  kubeconfig : Option String := none
deriving DecidableEq

/-- How `timeout(limit, cmd.output())` ends. A process that was killed has no exit code. -/
inductive Output where
  | exited (code : Option Int) (stdout stderr : String)
  | notSpawned (message : String)
  | timedOut
deriving DecidableEq

inductive ProcessCall where
  | output (command : CommandLine) (timeout : Nat)
  | sleep (seconds : Nat)
deriving DecidableEq

@[reducible]
def ProcessCall.Answer : ProcessCall → Type
  | .output .. => Output
  | .sleep _ => Unit

abbrev processes : Interface where
  Call := ProcessCall
  Answer := ProcessCall.Answer

def perform (c : ProcessCall) : Program processes c.Answer := Program.perform (I := processes) c

/-- `stderr.chars().take(2048).collect()` -/
def takeChars (text : String) (n : Nat) : String := String.ofList (text.toList.take n)

def duration (seconds : Nat) : String := toString seconds ++ "s"

/-! ## `ssh` -/

structure OpensshExecutor where
  identityFile : Option String
  commandTimeout : Nat := 300
  connectRetries : Nat := 6
  connectBackoff : Nat := 10

namespace OpensshExecutor

variable (e : OpensshExecutor) (target : SshTarget) (command : String)

def buildCommand : CommandLine where
  program := "ssh"
  args := ["-o", "BatchMode=yes", "-o", "StrictHostKeyChecking=accept-new",
      "-o", "UserKnownHostsFile=/tmp/kubinate-known-hosts", "-o", "ConnectTimeout=30",
      "-o", "ServerAliveInterval=30"] ++
    (match e.identityFile with
      | some key => ["-i", key]
      | none => []) ++
    [target.user ++ "@" ++ target.host, "--", command]

/-- `ssh` returns 255 for its own errors. The texts are looked for in the standard error, which
`ssh` and the remote command share. -/
def isTransport (exitCode : Int) (stderr : String) : Bool :=
  exitCode == 255 || contains stderr "Connection refused" ||
    contains stderr "kex_exchange_identification" || contains stderr "Connection timed out" ||
    contains stderr "Connection closed by"

/-- The attempts that are left, and the error of the last one. -/
def attempts : List Nat → Option SshError → Program processes (Except SshError String)
  | [], lastConnectErr =>
    pure (.error (lastConnectErr.getD (.transport "unreachable retry exit")))
  | attempt :: rest, _ => do
    let result ← perform (.output (e.buildCommand target command) e.commandTimeout)
    match result with
    | .notSpawned err => pure (.error (.transport ("spawn ssh: " ++ err)))
    | .timedOut =>
      pure (.error (.transport ("ssh command timed out after " ++ duration e.commandTimeout)))
    | .exited code stdout stderr =>
      let exitCode := code.getD (-1)
      if code = some 0 then pure (.ok stdout)
      else if isTransport exitCode stderr && attempt < e.connectRetries then do
        perform (.sleep e.connectBackoff)
        attempts rest (some (.connect stderr))
      else if isTransport exitCode stderr then pure (.error (.connect stderr))
      else pure (.error (.nonZeroExit exitCode (takeChars stderr 2048)))

def run : Program processes (Except SshError String) :=
  e.attempts target command (List.range (e.connectRetries + 1)) none

/-! ### The attempts -/

/-- After such an end the command is started again. -/
def isFlake : Output → Bool
  | .exited code _ stderr => code != some 0 && isTransport (code.getD (-1)) stderr
  | .notSpawned _ | .timedOut => false

/-- What is returned after the last process. -/
def judge : Output → Except SshError String
  | .notSpawned err => .error (.transport ("spawn ssh: " ++ err))
  | .timedOut => .error (.transport ("ssh command timed out after " ++ duration e.commandTimeout))
  | .exited code stdout stderr =>
    if code = some 0 then .ok stdout
    else if isTransport (code.getD (-1)) stderr then .error (.connect stderr)
    else .error (.nonZeroExit (code.getD (-1)) (takeChars stderr 2048))

/-- A process for the command, and how it ended. -/
def process (x : Output) : Σ c : ProcessCall, c.Answer :=
  ⟨.output (e.buildCommand target command) e.commandTimeout, x⟩

/-- Processes that ended in a flake, each with the pause after it. -/
def retried (flakes : List Output) : Trace processes :=
  flakes.flatMap fun x => [e.process target command x, ⟨.sleep e.connectBackoff, ()⟩]

/-- No more than the executor retries. -/
structure Flakes (flakes : List Output) : Prop where
  all : ∀ x ∈ flakes, isFlake x = true
  length_le : flakes.length ≤ e.connectRetries

/-- On the way, the command is started after flakes only, and every pause comes after a flake. -/
inductive Attempting : Trace processes → ProcessCall → Prop where
  | start {flakes : List Output} (h : e.Flakes flakes) : Attempting (e.retried target command flakes)
      (.output (e.buildCommand target command) e.commandTimeout)
  | pause {flakes : List Output} {x : Output} (h : e.Flakes (flakes ++ [x])) :
      Attempting (e.retried target command flakes ++ [e.process target command x])
        (.sleep e.connectBackoff)

/-- The last process alone decides. It is a flake only if all attempts were. -/
def Attempted (τ : Trace processes) (r : Except SshError String) : Prop :=
  ∃ flakes last, e.Flakes flakes ∧ (isFlake last = true → flakes.length = e.connectRetries) ∧
    τ = e.retried target command flakes ++ [e.process target command last] ∧ r = e.judge last

variable {e target command}

theorem retried_concat (flakes : List Output) (x : Output) :
    e.retried target command (flakes ++ [x]) = e.retried target command flakes ++
      [e.process target command x] ++ [⟨.sleep e.connectBackoff, ()⟩] := by
  rw [retried, List.flatMap_append, List.append_assoc]
  rfl

/-- The error that is kept while the command is started again. -/
def connectError : Output → SshError
  | .exited _ _ stderr => .connect stderr
  | .notSpawned err => .transport ("spawn ssh: " ++ err)
  | .timedOut => .transport "ssh command timed out"

theorem attempts_cons (attempt : Nat) (rest : List Nat) (last : Option SshError) :
    e.attempts target command (attempt :: rest) last =
      Program.call (I := processes) (.output (e.buildCommand target command) e.commandTimeout)
        fun x => if isFlake x && attempt < e.connectRetries then
          Program.call (I := processes) (.sleep e.connectBackoff) fun _ =>
            e.attempts target command rest (some (connectError x))
        else .done (e.judge x) := by
  refine congrArg (Program.call (I := processes) _) (funext fun x => ?_)
  cases x with
  | notSpawned err => rfl
  | timedOut => rfl
  | exited code stdout stderr =>
    by_cases hcode : code = some 0
    · subst hcode
      rfl
    have hnonzero : (code != some 0) = true := bne_iff_ne.mpr hcode
    rw [isFlake, judge, hnonzero, Bool.true_and, if_neg hcode]
    by_cases htransport : isTransport (code.getD (-1)) stderr = true
    · rw [if_pos htransport]
      exact (if_neg hcode).trans (by simp only [htransport, if_true]; rfl)
    · rw [if_neg htransport, Bool.eq_false_of_not_eq_true htransport, Bool.false_and]
      exact (if_neg hcode).trans (by
        rw [Bool.eq_false_of_not_eq_true htransport, Bool.false_and]
        rfl)

theorem Flakes.concat {flakes : List Output} (h : e.Flakes flakes) {x : Output}
    (hx : isFlake x = true) (hmore : flakes.length < e.connectRetries) :
    e.Flakes (flakes ++ [x]) where
  all y hy := by
    rcases List.mem_append.mp hy with hy | hy
    · exact h.all y hy
    · rwa [List.mem_singleton.mp hy]
  length_le := by
    rw [List.length_append]
    exact hmore

/-- The attempts that are left, of which there is at least one. -/
theorem attempts_meets (m : Nat) {flakes : List Output} (hflakes : e.Flakes flakes)
    (hm : flakes.length + m = e.connectRetries) (last : Option SshError) :
    Meets (e.Attempting target command) (fun _ _ _ => True) (e.Attempted target command)
      (e.attempts target command (List.range' flakes.length (m + 1)) last)
      (e.retried target command flakes) := by
  induction m generalizing flakes last with
  | zero =>
    rw [List.range'_succ, attempts_cons]
    refine ⟨.start hflakes, fun (x : Output) _ => ?_⟩
    dsimp only
    have hlast : ¬ flakes.length < e.connectRetries := Nat.not_lt.mpr (Nat.le_of_eq hm.symm)
    rw [decide_eq_false hlast, Bool.and_false, if_neg Bool.false_ne_true]
    exact ⟨flakes, x, hflakes, fun _ => hm, rfl, rfl⟩
  | succ m ih =>
    rw [List.range'_succ, attempts_cons]
    refine ⟨.start hflakes, fun (x : Output) _ => ?_⟩
    dsimp only
    have hmore : flakes.length < e.connectRetries := by omega
    rw [decide_eq_true hmore, Bool.and_true]
    by_cases hflake : isFlake x = true
    · rw [if_pos hflake]
      have hflakes' : e.Flakes (flakes ++ [x]) := hflakes.concat hflake hmore
      refine ⟨.pause hflakes', fun _ _ => ?_⟩
      have hlength : (flakes ++ [x]).length = flakes.length + 1 := List.length_append
      have hrest := ih hflakes' (by omega) (some (connectError x))
      rwa [hlength, retried_concat] at hrest
    · rw [if_neg hflake]
      exact ⟨flakes, x, hflakes, fun h => absurd h hflake, rfl, rfl⟩

/-- However the processes end: a command is started again after a flake only, as often as the
executor retries at most, and what is returned is what the last process says. -/
theorem run_attempts (e : OpensshExecutor) (target : SshTarget) (command : String) :
    Meets (e.Attempting target command) (fun _ _ _ => True) (e.Attempted target command)
      (e.run target command) [] := by
  have hrange : List.range (e.connectRetries + 1) = List.range' 0 (e.connectRetries + 1) :=
    List.range_eq_range'
  rw [run, hrange]
  have hnone : e.Flakes [] := { all := fun _ hx => absurd hx List.not_mem_nil, length_le := Nat.zero_le _ }
  exact attempts_meets e.connectRetries hnone (Nat.zero_add _) none

/-- Wherever a run has come to: only flakes were followed by another attempt, of which there are
no more than the executor retries, and the last process alone decides what is returned. -/
theorem attempts_of_reaches {τ : Trace processes} {q : Program processes (Except SshError String)}
    (h : Reaches (e.run target command) τ q) :
    ∃ flakes, e.Flakes flakes ∧
      (((∃ k, q = .call (.output (e.buildCommand target command) e.commandTimeout) k) ∧
          τ = e.retried target command flakes) ∨
        (∃ x k, e.Flakes (flakes ++ [x]) ∧ q = .call (.sleep e.connectBackoff) k ∧
          τ = e.retried target command flakes ++ [e.process target command x]) ∨
        ∃ last, (isFlake last = true → flakes.length = e.connectRetries) ∧
          τ = e.retried target command flakes ++ [e.process target command last] ∧
          q = .done (e.judge last)) := by
  cases q with
  | done r =>
    obtain ⟨flakes, last, hflakes, hlast, hτ, rfl⟩ := (run_attempts e target command).end_of_reaches h
    exact ⟨flakes, hflakes, .inr (.inr ⟨last, hlast, hτ, rfl⟩)⟩
  | call c k =>
    cases (run_attempts e target command).call_of_reaches h with
    | @start flakes hflakes => exact ⟨flakes, hflakes, .inl ⟨⟨k, rfl⟩, rfl⟩⟩
    | @pause flakes x hflakes =>
      have hearlier : e.Flakes flakes := by
        refine ⟨fun y hy => hflakes.all y (List.mem_append_left _ hy), ?_⟩
        have hle := hflakes.length_le
        rw [List.length_append] at hle
        exact Nat.le_of_succ_le hle
      exact ⟨flakes, hearlier, .inr (.inl ⟨x, k, hflakes, rfl, rfl⟩)⟩

/-- An executor that retries once, and a command that fails on the other side, for a reason that
reads like a flake, before it succeeds. -/
def patient : OpensshExecutor := { identityFile := none, connectRetries := 1 }

def firstWorker : SshTarget := ⟨"192.0.2.1", "kubinate"⟩

def failedRemotely : Output := .exited (some 7) "" "curl: (7) Failed to connect: Connection refused"

def joined : Output := .exited (some 0) "joined" ""

theorem attempts_of_reaches_failedRemotely :
    Reaches (patient.run firstWorker "k3sup join")
        (patient.retried firstWorker "k3sup join" [failedRemotely] ++
          [patient.process firstWorker "k3sup join" joined]) (.done (.ok "joined")) ∧
      ∃ flakes, patient.Flakes flakes ∧ ∃ last,
        (isFlake last = true → flakes.length = patient.connectRetries) ∧
        patient.retried firstWorker "k3sup join" [failedRemotely] ++
            [patient.process firstWorker "k3sup join" joined] =
          patient.retried firstWorker "k3sup join" flakes ++
            [patient.process firstWorker "k3sup join" last] := by
  have hreaches : Reaches (patient.run firstWorker "k3sup join")
      (patient.retried firstWorker "k3sup join" [failedRemotely] ++
        [patient.process firstWorker "k3sup join" joined]) (.done (.ok "joined")) := by
    repeat' apply Reaches.call
    exact .here _
  obtain ⟨flakes, hflakes, ⟨⟨k, hk⟩, -⟩ | ⟨x, k, -, hk, -⟩ | ⟨last, hlast, hτ, -⟩⟩ :=
    attempts_of_reaches hreaches
  · cases hk
  · cases hk
  · exact ⟨hreaches, flakes, hflakes, last, hlast, hτ⟩

end OpensshExecutor

/-! ## `kubectl` -/

structure KubectlCliExecutor where
  kubectlPath : Option String
  commandTimeout : Nat := 240

namespace KubectlCliExecutor

variable (e : KubectlCliExecutor) (kubeconfigPath nodeName : String)

def buildCommand (args : List String) : CommandLine where
  program := e.kubectlPath.getD "kubectl"
  args := args
  kubeconfig := some kubeconfigPath

/-- What is made of the process, once it has ended. -/
def judge (ignoreNotFound : Bool) : Output → Except KubectlError Unit
  | .notSpawned err => .error (.transport ("spawn kubectl: " ++ err))
  | .timedOut => .error (.timeout e.commandTimeout)
  | .exited code _ stderr =>
    if code = some 0 then .ok ()
    else if ignoreNotFound && (contains stderr "NotFound" || contains stderr "not found") then .ok ()
    else .error (.nonZeroExit (code.getD (-1)) (takeChars stderr 2048))

def run (command : CommandLine) (ignoreNotFound : Bool) :
    Program processes (Except KubectlError Unit) := do
  let result ← perform (.output command e.commandTimeout)
  pure (e.judge ignoreNotFound result)

def drainCommand : CommandLine :=
  e.buildCommand kubeconfigPath ["drain", nodeName, "--ignore-daemonsets",
    "--delete-emptydir-data", "--force", "--timeout=180s"]

def deleteCommand : CommandLine := e.buildCommand kubeconfigPath ["delete", "node", nodeName]

def drainNode : Program processes (Except KubectlError Unit) :=
  e.run (e.drainCommand kubeconfigPath nodeName) true

def deleteNode : Program processes (Except KubectlError Unit) :=
  e.run (e.deleteCommand kubeconfigPath nodeName) true

/-- What counts as done: a node that is not there, too. -/
def accepts : Output → Bool
  | .exited code _ stderr => code == some 0 || contains stderr "NotFound" || contains stderr "not found"
  | .notSpawned _ | .timedOut => false

end KubectlCliExecutor

end Kubinate.Integrations
