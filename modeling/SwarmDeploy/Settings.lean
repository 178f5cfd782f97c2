/-! Settings of deployments and of the server, with their defaults. -/

namespace SwarmDeploy

structure DeploySettings where
  maxRestarts : UInt64 := 5
  restartDelaySecs : UInt64 := 5
  /-- The namespace put in front of images that name no registry host. -/
  defaultRegistryNamespace : String := "docker.io"
  annotationPrefix : String := "com.openfaas.annotations."
  functionLabel : String := "com.openfaas.function"
  scaleMinLabel : String := "com.openfaas.scale.min"
  /-- The label, as `key=value`, by which the default network is found. -/
  networkLabel : String := "openfaas=true"
  fallbackConstraints : List String := ["node.platform.os == linux"]
  readOnlyTmpfsTarget : String := "/tmp"
  envProcessKey : String := "fprocess"
  secretMountDir : String := "/var/openfaas/secrets"
  deriving DecidableEq, Repr, Inhabited

def DeploySettings.restartDelay (s : DeploySettings) : Nat :=
  s.restartDelaySecs.toNat * 1000000000

structure ServerSettings where
  bindAddr : String := "0.0.0.0"
  port : UInt16 := 8080
  dockerHost : String := "http://127.0.0.1:2375"
  dockerApiVersion : String := "v1.41"
  requestTimeoutSecs : UInt64 := 30
  maxConcurrent : UInt64 := 100
  deriving DecidableEq, Repr, Inhabited

structure Settings where
  server : ServerSettings := {}
  deploy : DeploySettings := {}
  deriving DecidableEq, Repr, Inhabited

def markerLabel : String := "function"

end SwarmDeploy
