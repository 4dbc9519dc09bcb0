import PodProbe.Certificate.Fingerprint
import PodProbe.Configuration.Reader
import PodProbe.FileTree.Task

/-!
This module contains the storing of configurations in files, and their reading from there. Certificates are stored
beside a configuration, each in a file of its own that is named by its fingerprint; of the certificates, the
configuration itself holds the fingerprints only.
-/

namespace PodProbe.Configuration

def ofFile (path : String) (contents : Except ErrorChain Bytes) : Except RunError Configuration :=
  match contents with
  | .error e => .error (.storedConfiguration path e.message)
  | .ok bs =>
    match Bytes.toString? bs with
    | none => .error (.storedConfiguration path ErrorChain.notText.message)
    | some text =>
      match ofText text with
      | .error e => .error (.storedConfiguration path e)
      | .ok c => .ok c

def load (t : FileTree) (path : String) : Except RunError Configuration :=
  ofFile path ((t.read path).mapError FileError.chain)

def withFingerprints (c : Configuration) : Configuration :=
  { c with
    rootFingerprints := c.certificates.roots.map Certificate.sha256Hex
    serverFingerprints := c.certificates.servers.map Certificate.sha256Hex }

/-- The directory of a path is made before anything is written there, unless it is the one that is there anyway. -/
def parentTask (path : String) : List FileTask :=
  match FilePath.parent? path with
  | some parent => if parent.isEmpty then [] else [.makeDirectories parent]
  | none => []

def certificateTask (directory : String) (c : Certificate) : FileTask :=
  .write (FilePath.join directory (c.sha256Hex ++ ".der")) c.der

def trustTasks (h : Harvest) (directory : String) : List FileTask :=
  let servers := FilePath.join directory "servers"
  .makeDirectories directory :: h.roots.map (certificateTask directory)
    ++ .makeDirectories servers :: h.servers.map (certificateTask servers)

def tasks (c : Configuration) (path : String) (trustDirectory : Option String) : List FileTask :=
  parentTask path
    ++ .write path (Bytes.ofString c.withFingerprints.toLines)
    :: (trustDirectory.map (trustTasks c.certificates)).getD []

def save (c : Configuration) (path : String) (trustDirectory : Option String) (t : FileTree) :
    Except RunError Unit × FileTree :=
  t.perform (c.tasks path trustDirectory)

end PodProbe.Configuration
