/-
This file holds the keywords of the client configuration.
-/

namespace HostTree

/-- A keyword that is deprecated or ignored is left out of the configuration. A shorthand is written
with another keyword. -/
inductive Standing where
  | active
  | deprecated
  | ignored
  | shorthand
  deriving DecidableEq, Repr

/-- The spelling is the lower case form that a document may use, and the name is the form that the
configuration has. -/
structure Keyword where
  spelling : String
  name : String
  standing : Standing
  deriving DecidableEq, Repr

namespace Keyword

/-- The spellings are distinct and in order. -/
def table : Array Keyword :=
  #[⟨"addkeystoagent", "AddKeysToAgent", .active⟩,
    ⟨"addressfamily", "AddressFamily", .active⟩,
    ⟨"afstokenpassing", "AFSTokenPassing", .ignored⟩,
    ⟨"batchmode", "BatchMode", .active⟩,
    ⟨"bindaddress", "BindAddress", .active⟩,
    ⟨"bindinterface", "BindInterface", .active⟩,
    ⟨"canonicaldomains", "CanonicalDomains", .active⟩,
    ⟨"canonicalizefallbacklocal", "CanonicalizeFallbackLocal", .active⟩,
    ⟨"canonicalizehostname", "CanonicalizeHostname", .active⟩,
    ⟨"canonicalizemaxdots", "CanonicalizeMaxDots", .active⟩,
    ⟨"canonicalizepermittedcnames", "CanonicalizePermittedCNAMEs", .active⟩,
    ⟨"casignaturealgorithms", "CASignatureAlgorithms", .active⟩,
    ⟨"certificatefile", "CertificateFile", .active⟩,
    ⟨"challengeresponseauthentication", "KbdInteractiveAuthentication", .active⟩,
    ⟨"channeltimeout", "ChannelTimeout", .active⟩,
    ⟨"checkhostip", "CheckHostIP", .active⟩,
    ⟨"cipher", "Cipher", .deprecated⟩,
    ⟨"ciphers", "Ciphers", .active⟩,
    ⟨"clearallforwardings", "ClearAllForwardings", .active⟩,
    ⟨"compression", "Compression", .active⟩,
    ⟨"compressionlevel", "CompressionLevel", .ignored⟩,
    ⟨"connectionattempts", "ConnectionAttempts", .active⟩,
    ⟨"connecttimeout", "ConnectTimeout", .active⟩,
    ⟨"controlmaster", "ControlMaster", .active⟩,
    ⟨"controlpath", "ControlPath", .active⟩,
    ⟨"controlpersist", "ControlPersist", .active⟩,
    ⟨"dsaauthentication", "PubkeyAuthentication", .active⟩,
    ⟨"dynamicforward", "DynamicForward", .active⟩,
    ⟨"enableescapecommandline", "EnableEscapeCommandline", .active⟩,
    ⟨"enablesshkeysign", "EnableSSHKeysign", .active⟩,
    ⟨"escapechar", "EscapeChar", .active⟩,
    ⟨"exitonforwardfailure", "ExitOnForwardFailure", .active⟩,
    ⟨"fallbacktorsh", "FallBackToRsh", .deprecated⟩,
    ⟨"fingerprinthash", "FingerprintHash", .active⟩,
    ⟨"forkafterauthentication", "ForkAfterAuthentication", .active⟩,
    ⟨"forwardagent", "ForwardAgent", .active⟩,
    ⟨"forwardx11", "ForwardX11", .active⟩,
    ⟨"forwardx11timeout", "ForwardX11Timeout", .active⟩,
    ⟨"forwardx11trusted", "ForwardX11Trusted", .active⟩,
    ⟨"gatewayports", "GatewayPorts", .active⟩,
    ⟨"globalknownhostsfile", "GlobalKnownHostsFile", .active⟩,
    ⟨"globalknownhostsfile2", "GlobalKnownHostsFile2", .deprecated⟩,
    ⟨"gssapiauthentication", "GSSAPIAuthentication", .active⟩,
    ⟨"gssapidelegatecredentials", "GSSAPIDelegateCredentials", .active⟩,
    ⟨"hashknownhosts", "HashKnownHosts", .active⟩,
    ⟨"hostbasedacceptedalgorithms", "HostbasedAcceptedAlgorithms", .active⟩,
    ⟨"hostbasedauthentication", "HostbasedAuthentication", .active⟩,
    ⟨"hostbasedkeytypes", "HostbasedAcceptedAlgorithms", .active⟩,
    ⟨"hostkeyalgorithms", "HostKeyAlgorithms", .active⟩,
    ⟨"hostkeyalias", "HostKeyAlias", .active⟩,
    ⟨"hostname", "HostName", .active⟩,
    ⟨"identitiesonly", "IdentitiesOnly", .active⟩,
    ⟨"identityagent", "IdentityAgent", .active⟩,
    ⟨"identityfile", "IdentityFile", .active⟩,
    ⟨"identityfile2", "IdentityFile", .active⟩,
    ⟨"ignoreunknown", "IgnoreUnknown", .active⟩,
    ⟨"include", "Include", .active⟩,
    ⟨"ipqos", "IPQoS", .active⟩,
    ⟨"kbdinteractiveauthentication", "KbdInteractiveAuthentication", .active⟩,
    ⟨"kbdinteractivedevices", "KbdInteractiveDevices", .active⟩,
    ⟨"keepalive", "TCPKeepAlive", .active⟩,
    ⟨"kerberosauthentication", "KerberosAuthentication", .ignored⟩,
    ⟨"kerberostgtpassing", "KerberosTGTPassing", .ignored⟩,
    ⟨"kexalgorithms", "KexAlgorithms", .active⟩,
    ⟨"knownhostscommand", "KnownHostsCommand", .active⟩,
    ⟨"localcommand", "LocalCommand", .active⟩,
    ⟨"localforward", "LocalForward", .active⟩,
    ⟨"loglevel", "LogLevel", .active⟩,
    ⟨"logverbose", "LogVerbose", .active⟩,
    ⟨"macs", "MACs", .active⟩,
    ⟨"nohostauthenticationforlocalhost", "NoHostAuthenticationForLocalhost", .active⟩,
    ⟨"numberofpasswordprompts", "NumberOfPasswordPrompts", .active⟩,
    ⟨"obscurekeystroketiming", "ObscureKeystrokeTiming", .active⟩,
    ⟨"passwordauthentication", "PasswordAuthentication", .active⟩,
    ⟨"permitlocalcommand", "PermitLocalCommand", .active⟩,
    ⟨"permitremoteopen", "PermitRemoteOpen", .active⟩,
    ⟨"pkcs11provider", "PKCS11Provider", .active⟩,
    ⟨"port", "Port", .active⟩,
    ⟨"preferredauthentications", "PreferredAuthentications", .active⟩,
    ⟨"protocol", "Protocol", .ignored⟩,
    ⟨"proxycommand", "ProxyCommand", .active⟩,
    ⟨"proxyjump", "ProxyJump", .active⟩,
    ⟨"proxyusefdpass", "ProxyUseFdpass", .active⟩,
    ⟨"pubkeyacceptedalgorithms", "PubkeyAcceptedAlgorithms", .active⟩,
    ⟨"pubkeyacceptedkeytypes", "PubkeyAcceptedAlgorithms", .active⟩,
    ⟨"pubkeyauthentication", "PubkeyAuthentication", .active⟩,
    ⟨"rekeylimit", "RekeyLimit", .active⟩,
    ⟨"remotecommand", "RemoteCommand", .active⟩,
    ⟨"remoteforward", "RemoteForward", .active⟩,
    ⟨"requesttty", "RequestTTY", .active⟩,
    ⟨"requiredrsasize", "RequiredRSASize", .active⟩,
    ⟨"revokedhostkeys", "RevokedHostKeys", .active⟩,
    ⟨"rhostsauthentication", "RhostsAuthentication", .deprecated⟩,
    ⟨"rhostsrsaauthentication", "RhostsRSAAuthentication", .ignored⟩,
    ⟨"rsaauthentication", "RSAAuthentication", .ignored⟩,
    ⟨"securitykeyprovider", "SecurityKeyProvider", .active⟩,
    ⟨"sendenv", "SendEnv", .active⟩,
    ⟨"serveralivecountmax", "ServerAliveCountMax", .active⟩,
    ⟨"serveraliveinterval", "ServerAliveInterval", .active⟩,
    ⟨"sessiontype", "SessionType", .active⟩,
    ⟨"setenv", "SetEnv", .active⟩,
    ⟨"skeyauthentication", "KbdInteractiveAuthentication", .active⟩,
    ⟨"smartcarddevice", "PKCS11Provider", .active⟩,
    ⟨"stdinnull", "StdinNull", .active⟩,
    ⟨"streamlocalbindmask", "StreamLocalBindMask", .active⟩,
    ⟨"streamlocalbindunlink", "StreamLocalBindUnlink", .active⟩,
    ⟨"stricthostkeychecking", "StrictHostKeyChecking", .active⟩,
    ⟨"syslogfacility", "SyslogFacility", .active⟩,
    ⟨"tag", "Tag", .active⟩,
    ⟨"tcpkeepalive", "TCPKeepAlive", .active⟩,
    ⟨"tisauthentication", "KbdInteractiveAuthentication", .active⟩,
    ⟨"tunnel", "Tunnel", .active⟩,
    ⟨"tunneldevice", "TunnelDevice", .active⟩,
    ⟨"updatehostkeys", "UpdateHostKeys", .active⟩,
    ⟨"useprivilegedport", "UsePrivilegedPort", .deprecated⟩,
    ⟨"user", "User", .active⟩,
    ⟨"userknownhostsfile", "UserKnownHostsFile", .active⟩,
    ⟨"userknownhostsfile2", "UserKnownHostsFile2", .deprecated⟩,
    ⟨"useroaming", "UseRoaming", .deprecated⟩,
    ⟨"usersh", "UseRsh", .deprecated⟩,
    ⟨"verifyhostkeydns", "VerifyHostKeyDNS", .active⟩,
    ⟨"viaproxy", "ViaProxy", .shorthand⟩,
    ⟨"visualhostkey", "VisualHostKey", .active⟩,
    ⟨"xauthlocation", "XAuthLocation", .active⟩]

end Keyword
end HostTree
