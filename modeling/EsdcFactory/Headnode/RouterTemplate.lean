import EsdcFactory.Headnode.Manifest
import EsdcFactory.Lib.JsonLayout

/-!
# The manifest of the router

The template of the router, line by line, and the value that its lines are the
text of.
-/

namespace EsdcFactory
namespace Headnode

open Sed

/-!
## The template
-/

/-- A character that stands for itself in a replacement and in a string, and that is no `@`. -/
def isOrdinary (c : Char) : Bool :=
  Json.isLiteral c && !isSpecial c && c != '@'

/-- An address, a mask, a number or a generated key. -/
structure PlainText where
  text : List Char
  ordinary : forall c, c ∈ text -> isOrdinary c = true

/-- What the manifest of the router holds besides its configuration. -/
structure RouterValues where
  imageUuid : PlainText
  monIp : PlainText
  adminIp : PlainText
  adminNetmask : PlainText
  adminVlanId : PlainText
  externalIp : PlainText
  externalNetmask : PlainText
  externalMac : PlainText
  externalGateway : PlainText
  externalVlanId : PlainText
  apiKey : PlainText
  apiSecret : PlainText

def RouterValues.manifestVars (values : RouterValues) (configXml : List Char) : ManifestVars :=
  { (default : ManifestVars) with
    monIp := values.monIp.text
    opnsenseAdminIp := values.adminIp.text
    opnsenseAdminNetmask := values.adminNetmask.text
    opnsenseAdminVlanId := values.adminVlanId.text
    opnsenseExternalIp := values.externalIp.text
    opnsenseExternalNetmask := values.externalNetmask.text
    opnsenseExternalMac := values.externalMac.text
    opnsenseExternalGateway := values.externalGateway.text
    opnsenseExternalVlanId := values.externalVlanId.text
    opnsenseApiKey := values.apiKey.text
    opnsenseApiSecret := values.apiSecret.text
    opnsenseConfigXml := configXml }

theorem PlainText.at_not_mem (value : PlainText) : '@' ∉ value.text := by
  intro hmem
  exact absurd (value.ordinary _ hmem) (by decide)

/-- A line of the template without a placeholder. -/
def line (text : String) (h : '@' ∉ text.toList) : TemplateLine :=
  .text text.toList h

/-- A member of an object whose value is a placeholder. -/
def fieldSlot (indent key name post : String)
    (h : '@' ∉ indent.toList ∧ '@' ∉ key.toList ∧ '@' ∉ name.toList ∧ '@' ∉ post.toList) :
    Slot where
  pre := indent.toList ++ '"' :: (key.toList ++ "\": \"".toList)
  name := name.toList
  post := post.toList
  pre_free := by
    have hindent := h.left
    have hkey := h.right.left
    simpa [hindent] using hkey
  name_free := h.right.right.left
  post_free := h.right.right.right

def field (indent key name post : String)
    (h : '@' ∉ indent.toList ∧ '@' ∉ key.toList ∧ '@' ∉ name.toList ∧ '@' ∉ post.toList) :
    TemplateLine :=
  .slot (fieldSlot indent key name post h)

def imageLine (imageUuid : PlainText) : TemplateLine :=
  .text ("      \"image_uuid\": \"".toList ++ (imageUuid.text ++ "\",".toList)) (by
    simpa using imageUuid.at_not_mem)

def macSlot : Slot where
  pre := "      ".toList
  name := "EXTERNAL_MAC_PLACEHOLDER".toList
  post := []
  pre_free := by decide +kernel
  name_free := by decide +kernel
  post_free := by decide

def macLine : TemplateLine :=
  .slot macSlot

/-- `opnsense.vmmanifest.j2`, up to its disks. -/
def templateStart : List TemplateLine :=
  [line "\x7b" (by decide +kernel),
    line "  \"autoboot\": true," (by decide +kernel),
    line "  \"brand\": \"kvm\"," (by decide +kernel),
    line "  \"vcpus\": 1," (by decide +kernel),
    line "  \"vnc_port\": 20002," (by decide +kernel),
    line "  \"disks\": [" (by decide +kernel)]

def templateDisk (imageUuid : PlainText) : List TemplateLine :=
  [line "    \x7b" (by decide +kernel),
    imageLine imageUuid,
    line "      \"image_size\": 5120," (by decide +kernel),
    line "      \"size\": 5120," (by decide +kernel),
    line "      \"boot\": true," (by decide +kernel),
    line "      \"model\": \"virtio\"," (by decide +kernel),
    line "      \"media\": \"disk\"," (by decide +kernel),
    line "      \"compression\": \"lz4\"" (by decide +kernel),
    line "    \x7d" (by decide +kernel)]

def templateNics : List TemplateLine :=
  [line "  ]," (by decide +kernel),
    line "  \"nics\": [" (by decide +kernel)]

def templateExternal : List TemplateLine :=
  [line "    \x7b" (by decide +kernel),
    macLine,
    line "      \"nic_tag\": \"external\"," (by decide +kernel),
    field "      " "gateway" "EXTERNAL_GATEWAY" "\"," (by decide +kernel),
    field "      " "ip" "EXTERNAL_IP" "\"," (by decide +kernel),
    field "      " "netmask" "EXTERNAL_NETMASK" "\"," (by decide +kernel),
    field "      " "vlan_id" "EXTERNAL_VLAN_ID" "\"," (by decide +kernel),
    line "      \"network_uuid\": \"0e1a84da-0222-cefe-e53c-ddc254179888\"," (by decide +kernel),
    line "      \"model\": \"virtio\"," (by decide +kernel),
    line "      \"primary\": true" (by decide +kernel),
    line "    \x7d," (by decide +kernel)]

def templateAdmin : List TemplateLine :=
  [line "    \x7b" (by decide +kernel),
    line "      \"nic_tag\": \"admin\"," (by decide +kernel),
    field "      " "ip" "ADMIN_IP" "\"," (by decide +kernel),
    field "      " "netmask" "ADMIN_NETMASK" "\"," (by decide +kernel),
    field "      " "vlan_id" "ADMIN_VLAN_ID" "\"," (by decide +kernel),
    line "      \"network_uuid\": \"d42bc4c3-ba17-43ee-a02a-74e667bd41fa\"," (by decide +kernel),
    line "      \"model\": \"virtio\"," (by decide +kernel),
    line "      \"allow_dhcp_spoofing\": true," (by decide +kernel),
    line "      \"allow_ip_spoofing\": true," (by decide +kernel),
    line "      \"allow_mac_spoofing\": true," (by decide +kernel),
    line "      \"allow_restricted_traffic\": false," (by decide +kernel),
    line "      \"allow_unfiltered_promisc\": false" (by decide +kernel),
    line "    \x7d" (by decide +kernel)]

theorem at_not_mem_customer : '@' ∉ "  \"customer_metadata\": \x7b".toList := by
  decide +kernel

theorem at_not_mem_closing : '@' ∉ "  \x7d,".toList := by
  decide +kernel

def templateVm : List TemplateLine :=
  [line "  ]," (by decide +kernel),
    line "  \"ram\": 512," (by decide +kernel),
    line "  \"hostname\": \"opnsense01.local\"," (by decide +kernel),
    line "  \"alias\": \"opnsense01.local\"," (by decide +kernel),
    line "  \"uuid\": \"ccb71fd2-52f1-6589-bdfe-9859631ab0dd\"," (by decide +kernel),
    line "  \"customer_metadata\": \x7b" at_not_mem_customer,
    field "    " "opnsense_api_key" "OPNSENSE_API_KEY" "\"," (by decide +kernel),
    field "    " "opnsense_api_secret" "OPNSENSE_API_SECRET" "\"," (by decide +kernel)]

/-- The template before the line of the configuration. -/
def templateHead (imageUuid : PlainText) : List TemplateLine :=
  templateStart ++ (templateDisk imageUuid ++
    (templateNics ++ (templateExternal ++ (templateAdmin ++ templateVm))))

def configSlot : Slot :=
  fieldSlot "    " "config.xml" "CONFIG_XML" "\"" (by decide +kernel)

/-- `opnsense.vmmanifest.j2` behind the line of the configuration. -/
def templateTail : List TemplateLine :=
  [line "  \x7d," at_not_mem_closing,
    line "  \"internal_metadata\": \x7b" (by decide +kernel),
    line "    \"author\": \"Erigones\"," (by decide +kernel),
    line "    \"installed\": true," (by decide +kernel),
    line "    \"alias\": \"opnsense01\"," (by decide +kernel),
    line "    \"ostype\": 3," (by decide +kernel),
    field "    " "mon_ip" "MON_IP" "\"" (by decide +kernel),
    line "  \x7d," at_not_mem_closing,
    line "  \"owner_uuid\": \"1\"," (by decide +kernel),
    line ("  \"qemu_extra_opts\": \"-chardev socket,path=/tmp/vm.qga,server,nowait,id=qga0 " ++
      "-device virtio-serial " ++
      "-device virtserialport,chardev=qga0,name=org.qemu.guest_agent.0\",") (by
        rw [String.toList_append, String.toList_append]
        repeat rw [String.toList_ofList]
        decide +kernel),
    line "  \"indestructible_zoneroot\": true" (by decide +kernel),
    line "\x7d" (by decide +kernel)]

def vmmanifestTemplate (imageUuid : PlainText) : List TemplateLine :=
  templateHead imageUuid ++ .slot configSlot :: templateTail

/-!
## The manifest as a value
-/

def spaces (n : Nat) : Json.Break where
  blanks := List.replicate n ' '
  isBlank c hc := by
    rw [List.eq_of_mem_replicate hc]
    rfl

theorem PlainText.isLiteral (value : PlainText) (c : Char) (hc : c ∈ value.text) :
    Json.isLiteral c = true := by
  have hordinary := value.ordinary c hc
  simp only [isOrdinary, Bool.and_eq_true] at hordinary
  exact hordinary.left.left

def PlainText.printed (value : PlainText) : Json.Printed :=
  .string value.text value.text fun rest => Json.readString_literal rest value.isLiteral

def word (text : String) (h : forall c, c ∈ text.toList -> Json.isLiteral c = true) :
    Json.Printed :=
  .string text.toList text.toList fun rest => Json.readString_literal rest h

/-- A member with its name on a line of its own. -/
def entry (n : Nat) (name : String) (item : Json.Printed)
    (h : forall c, c ∈ name.toList -> Json.isLiteral c = true) : Json.Entry where
  gap := spaces n
  name := name.toList
  item := item
  literal := h

def diskItem (imageUuid : PlainText) : Json.Printed :=
  .object (spaces 4)
    (entry 6 "image_uuid" imageUuid.printed (by decide +kernel))
    [entry 6 "image_size" (.number '5' ['1', '2', '0'] (by decide) (by decide))
        (by decide +kernel),
      entry 6 "size" (.number '5' ['1', '2', '0'] (by decide) (by decide)) (by decide +kernel),
      entry 6 "boot" (.bool true) (by decide +kernel),
      entry 6 "model" (word "virtio" (by decide +kernel)) (by decide +kernel),
      entry 6 "media" (word "disk" (by decide +kernel)) (by decide +kernel),
      entry 6 "compression" (word "lz4" (by decide +kernel)) (by decide +kernel)]

/-- The members of the first interface behind its address. -/
def externalEntries (values : RouterValues) : List Json.Entry :=
  [entry 6 "gateway" values.externalGateway.printed (by decide +kernel),
    entry 6 "ip" values.externalIp.printed (by decide +kernel),
    entry 6 "netmask" values.externalNetmask.printed (by decide +kernel),
    entry 6 "vlan_id" values.externalVlanId.printed (by decide +kernel),
    entry 6 "network_uuid" (word "0e1a84da-0222-cefe-e53c-ddc254179888" (by decide +kernel))
      (by decide +kernel),
    entry 6 "model" (word "virtio" (by decide +kernel)) (by decide +kernel),
    entry 6 "primary" (.bool true) (by decide +kernel)]

def nicTag (gap : Json.Break) : Json.Entry where
  gap := gap
  name := "nic_tag".toList
  item := word "external" (by decide +kernel)
  literal := by decide +kernel

/-- Two ends of lines, where the line between them is left blank. -/
def blankLine : Json.Break where
  blanks := "      \n      ".toList
  isBlank := by decide +kernel

/-- The first interface, whose address may be left to the system. -/
def externalItem (values : RouterValues) : Json.Printed :=
  if values.externalMac.text = [] then
    .object (spaces 4) (nicTag blankLine) (externalEntries values)
  else
    .object (spaces 4) (entry 6 "mac" values.externalMac.printed (by decide +kernel))
      (nicTag (spaces 6) :: externalEntries values)

def adminItem (values : RouterValues) : Json.Printed :=
  .object (spaces 4)
    (entry 6 "nic_tag" (word "admin" (by decide +kernel)) (by decide +kernel))
    [entry 6 "ip" values.adminIp.printed (by decide +kernel),
      entry 6 "netmask" values.adminNetmask.printed (by decide +kernel),
      entry 6 "vlan_id" values.adminVlanId.printed (by decide +kernel),
      entry 6 "network_uuid" (word "d42bc4c3-ba17-43ee-a02a-74e667bd41fa" (by decide +kernel))
        (by decide +kernel),
      entry 6 "model" (word "virtio" (by decide +kernel)) (by decide +kernel),
      entry 6 "allow_dhcp_spoofing" (.bool true) (by decide +kernel),
      entry 6 "allow_ip_spoofing" (.bool true) (by decide +kernel),
      entry 6 "allow_mac_spoofing" (.bool true) (by decide +kernel),
      entry 6 "allow_restricted_traffic" (.bool false) (by decide +kernel),
      entry 6 "allow_unfiltered_promisc" (.bool false) (by decide +kernel)]

def customerMetadata (values : RouterValues) (config : Json.Printed) : Json.Printed :=
  .object (spaces 2)
    (entry 4 "opnsense_api_key" values.apiKey.printed (by decide +kernel))
    [entry 4 "opnsense_api_secret" values.apiSecret.printed (by decide +kernel),
      entry 4 "config.xml" config (by decide +kernel)]

def internalMetadata (values : RouterValues) : Json.Printed :=
  .object (spaces 2)
    (entry 4 "author" (word "Erigones" (by decide +kernel)) (by decide +kernel))
    [entry 4 "installed" (.bool true) (by decide +kernel),
      entry 4 "alias" (word "opnsense01" (by decide +kernel)) (by decide +kernel),
      entry 4 "ostype" (.number '3' [] (by decide) (by decide)) (by decide +kernel),
      entry 4 "mon_ip" values.monIp.printed (by decide +kernel)]

def qemuExtraOpts : String :=
  "-chardev socket,path=/tmp/vm.qga,server,nowait,id=qga0 -device virtio-serial " ++
    "-device virtserialport,chardev=qga0,name=org.qemu.guest_agent.0"

theorem qemuExtraOpts_toList : qemuExtraOpts.toList =
    "-chardev socket,path=/tmp/vm.qga,server,nowait,id=qga0 -device virtio-serial ".toList ++
      "-device virtserialport,chardev=qga0,name=org.qemu.guest_agent.0".toList :=
  String.toList_append

theorem literal_qemuExtraOpts :
    forall c, c ∈ qemuExtraOpts.toList -> Json.isLiteral c = true := by
  rw [qemuExtraOpts_toList, String.toList_ofList, String.toList_ofList]
  decide +kernel

def manifestItem (values : RouterValues) (config : Json.Printed) : Json.Printed :=
  .object (spaces 0)
    (entry 2 "autoboot" (.bool true) (by decide +kernel))
    [entry 2 "brand" (word "kvm" (by decide +kernel)) (by decide +kernel),
      entry 2 "vcpus" (.number '1' [] (by decide) (by decide)) (by decide +kernel),
      entry 2 "vnc_port" (.number '2' ['0', '0', '0', '2'] (by decide) (by decide))
        (by decide +kernel),
      entry 2 "disks" (.array (spaces 2) ⟨spaces 4, diskItem values.imageUuid⟩ [])
        (by decide +kernel),
      entry 2 "nics" (.array (spaces 2) ⟨spaces 4, externalItem values⟩
        [⟨spaces 4, adminItem values⟩]) (by decide +kernel),
      entry 2 "ram" (.number '5' ['1', '2'] (by decide) (by decide)) (by decide +kernel),
      entry 2 "hostname" (word "opnsense01.local" (by decide +kernel)) (by decide +kernel),
      entry 2 "alias" (word "opnsense01.local" (by decide +kernel)) (by decide +kernel),
      entry 2 "uuid" (word "ccb71fd2-52f1-6589-bdfe-9859631ab0dd" (by decide +kernel))
        (by decide +kernel),
      entry 2 "customer_metadata" (customerMetadata values config) (by decide +kernel),
      entry 2 "internal_metadata" (internalMetadata values) (by decide +kernel),
      entry 2 "owner_uuid" (word "1" (by decide +kernel)) (by decide +kernel),
      entry 2 "qemu_extra_opts" (word qemuExtraOpts literal_qemuExtraOpts) (by decide +kernel),
      entry 2 "indestructible_zoneroot" (.bool true) (by decide +kernel)]

end Headnode
end EsdcFactory
