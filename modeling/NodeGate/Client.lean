import NodeGate.Run

/-!
# Client settings

Where the settings for the API server come from: a file if one is given, else the cluster that the
program runs in, else the default file.
-/

set_option autoImplicit false

namespace NodeGate

/-- What happens when settings are loaded from the cluster and from a file. -/
structure Settings where
  inCluster : Except Failure Unit
  file : Except Failure Unit

namespace Settings

/-- Looks in one place. -/
def look (l : Lookup) (answer : Except Failure Unit) : Run Unit := ⟨[.look l], answer⟩

/-- The file is the second choice only if the program is in no cluster; any other trouble there
counts. -/
def search (s : Settings) : Run Unit :=
  match s.inCluster with
  | .error (.fault (.configuration _)) => do
    Run.step (.look .inCluster)
    look (.kubeconfig none) s.file
    Run.log .debug "kube" "Loaded default kubeconfig"
  | answer => do
    look .inCluster answer
    Run.log .debug "kube" "Loaded in-cluster configuration"

/-- Bad settings and files that cannot be read are errors of the gate; other trouble is not. -/
def explain : Failure → Failure
  | .fault (.configuration text) => .gate (.clientNotLoaded text)
  | .fault (.call (.unreachable (.timeout text))) => .gate (.clientNotLoaded text)
  | .fault (.call (.unreachable (.system number text))) =>
    .gate (.clientNotLoaded (Transport.system number text).text)
  | f => f

/-- An empty file name counts as none. -/
def load (s : Settings) (kubeconfig : Option String) : Run Unit :=
  match kubeconfig.filter fun file => !file.isEmpty with
  | some file => (look (.kubeconfig (some file)) s.file).mapFailure explain
  | none => s.search.mapFailure explain

end Settings

end NodeGate
