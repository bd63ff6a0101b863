import Cordon.Kube.Shapes.Container

/-! # Shapes of volumes

A volume of a pod names one source: a directory, a configuration, a claim to storage, or one of many
storage systems.
-/

namespace Cordon.Kube

open Json (Shape)
open Json.Shape

/-! ## Sources within the cluster -/

def keyFileShape : Shape := .table "KeyToPath" [(.text, ["key", "path"])] [(.int32, ["mode"])]

/-- A field or resource of the pod, and the file that it is shown as. -/
def podFileShape : Shape :=
  .table "DownwardAPIVolumeFile"
    [(.text, ["path"])]
    [(fieldSelectorShape, ["fieldRef"]),
     (.int32, ["mode"]),
     (resourceSelectorShape, ["resourceFieldRef"])]

/-- Keys of a configuration or of a secret shown as files, by the name of the shape. -/
def keyFilesShape (name : String) : Shape :=
  .table name [] [(.list keyFileShape, ["items"]), (.text, ["name"]), (.bool, ["optional"])]

def projectionShape : Shape :=
  .table "VolumeProjection" []
    [(keyFilesShape "ConfigMapProjection", ["configMap"]),
     (.table "DownwardAPIProjection" [] [(.list podFileShape, ["items"])], ["downwardAPI"]),
     (keyFilesShape "SecretProjection", ["secret"]),
     (.table "ServiceAccountTokenProjection"
        [(.text, ["path"])]
        [(.text, ["audience"]), (.int64, ["expirationSeconds"])], ["serviceAccountToken"])]

def claimShape : Shape :=
  .table "PersistentVolumeClaimSpec" []
    [(.list .text, ["accessModes"]),
     (typedReferenceShape, ["dataSource", "dataSourceRef"]),
     (resourcesShape, ["resources"]),
     (selectorShape, ["selector"]),
     (.text, ["storageClassName", "volumeMode", "volumeName"])]

def clusterSources : List (Shape × List String) :=
  [(.table "ConfigMapVolumeSource" []
      [(.int32, ["defaultMode"]), (.list keyFileShape, ["items"]), (.text, ["name"]),
       (.bool, ["optional"])], ["configMap"]),
   (.table "DownwardAPIVolumeSource" []
      [(.int32, ["defaultMode"]), (.list podFileShape, ["items"])], ["downwardAPI"]),
   (.table "EmptyDirVolumeSource" [] [(.text, ["medium", "sizeLimit"])], ["emptyDir"]),
   (.table "EphemeralVolumeSource" []
      [(.table "PersistentVolumeClaimTemplate"
          [(claimShape, ["spec"])]
          [(metaShape, ["metadata"])], ["volumeClaimTemplate"])], ["ephemeral"]),
   (.table "HostPathVolumeSource" [(.text, ["path"])] [(.text, ["type"])], ["hostPath"]),
   (.table "PersistentVolumeClaimVolumeSource"
      [(.text, ["claimName"])]
      [(.bool, ["readOnly"])], ["persistentVolumeClaim"]),
   (.table "ProjectedVolumeSource" []
      [(.int32, ["defaultMode"]), (.list projectionShape, ["sources"])], ["projected"]),
   (.table "SecretVolumeSource" []
      [(.int32, ["defaultMode"]), (.list keyFileShape, ["items"]), (.bool, ["optional"]),
       (.text, ["secretName"])], ["secret"])]

/-! ## Storage systems -/

def storageSources : List (Shape × List String) :=
  [(.table "AWSElasticBlockStoreVolumeSource"
      [(.text, ["volumeID"])]
      [(.text, ["fsType"]), (.int32, ["partition"]), (.bool, ["readOnly"])],
      ["awsElasticBlockStore"]),
   (.table "AzureDiskVolumeSource"
      [(.text, ["diskName", "diskURI"])]
      [(.text, ["cachingMode", "fsType", "kind"]), (.bool, ["readOnly"])], ["azureDisk"]),
   (.table "AzureFileVolumeSource"
      [(.text, ["secretName", "shareName"])]
      [(.bool, ["readOnly"])], ["azureFile"]),
   (.table "CephFSVolumeSource"
      [(.list .text, ["monitors"])]
      [(.text, ["path", "secretFile", "user"]), (.bool, ["readOnly"]),
       (localReferenceShape, ["secretRef"])], ["cephfs"]),
   (.table "CinderVolumeSource"
      [(.text, ["volumeID"])]
      [(.text, ["fsType"]), (.bool, ["readOnly"]), (localReferenceShape, ["secretRef"])],
      ["cinder"]),
   (.table "CSIVolumeSource"
      [(.text, ["driver"])]
      [(.text, ["fsType"]), (localReferenceShape, ["nodePublishSecretRef"]), (.bool, ["readOnly"]),
       (.map .text, ["volumeAttributes"])], ["csi"]),
   (.table "FCVolumeSource" []
      [(.text, ["fsType"]), (.int32, ["lun"]), (.bool, ["readOnly"]),
       (.list .text, ["targetWWNs", "wwids"])], ["fc"]),
   (.table "FlexVolumeSource"
      [(.text, ["driver"])]
      [(.text, ["fsType"]), (.map .text, ["options"]), (.bool, ["readOnly"]),
       (localReferenceShape, ["secretRef"])], ["flexVolume"]),
   (.table "FlockerVolumeSource" [] [(.text, ["datasetName", "datasetUUID"])], ["flocker"]),
   (.table "GCEPersistentDiskVolumeSource"
      [(.text, ["pdName"])]
      [(.text, ["fsType"]), (.int32, ["partition"]), (.bool, ["readOnly"])],
      ["gcePersistentDisk"]),
   (.table "GitRepoVolumeSource"
      [(.text, ["repository"])]
      [(.text, ["directory", "revision"])], ["gitRepo"]),
   (.table "GlusterfsVolumeSource"
      [(.text, ["endpoints", "path"])]
      [(.bool, ["readOnly"])], ["glusterfs"]),
   (.table "ISCSIVolumeSource"
      [(.text, ["iqn", "targetPortal"]), (.int32, ["lun"])]
      [(.bool, ["chapAuthDiscovery", "chapAuthSession", "readOnly"]),
       (.text, ["fsType", "initiatorName", "iscsiInterface"]), (.list .text, ["portals"]),
       (localReferenceShape, ["secretRef"])], ["iscsi"]),
   (.table "NFSVolumeSource" [(.text, ["path", "server"])] [(.bool, ["readOnly"])], ["nfs"]),
   (.table "PhotonPersistentDiskVolumeSource"
      [(.text, ["pdID"])]
      [(.text, ["fsType"])], ["photonPersistentDisk"]),
   (.table "PortworxVolumeSource"
      [(.text, ["volumeID"])]
      [(.text, ["fsType"]), (.bool, ["readOnly"])], ["portworxVolume"]),
   (.table "QuobyteVolumeSource"
      [(.text, ["registry", "volume"])]
      [(.text, ["group", "tenant", "user"]), (.bool, ["readOnly"])], ["quobyte"]),
   (.table "RBDVolumeSource"
      [(.text, ["image"]), (.list .text, ["monitors"])]
      [(.text, ["fsType", "keyring", "pool", "user"]), (.bool, ["readOnly"]),
       (localReferenceShape, ["secretRef"])], ["rbd"]),
   (.table "ScaleIOVolumeSource"
      [(.text, ["gateway", "system"]), (localReferenceShape, ["secretRef"])]
      [(.text, ["fsType", "protectionDomain", "storageMode", "storagePool", "volumeName"]),
       (.bool, ["readOnly", "sslEnabled"])], ["scaleIO"]),
   (.table "StorageOSVolumeSource" []
      [(.text, ["fsType", "volumeName", "volumeNamespace"]), (.bool, ["readOnly"]),
       (localReferenceShape, ["secretRef"])], ["storageos"]),
   (.table "VsphereVirtualDiskVolumeSource"
      [(.text, ["volumePath"])]
      [(.text, ["fsType", "storagePolicyID", "storagePolicyName"])], ["vsphereVolume"])]

def volumeShape : Shape :=
  .table "Volume" [(.text, ["name"])] (clusterSources ++ storageSources)

end Cordon.Kube
