import HpnVpn.AccountLockout
import HpnVpn.AfXdpControl
import HpnVpn.AfXdpSession
import HpnVpn.BufferPool
import HpnVpn.ClientSilence
import HpnVpn.ConfigDelivery
import HpnVpn.CookieRuns
import HpnVpn.FragmentCharges
import HpnVpn.FrameConservation
import HpnVpn.HandshakeAgreement
import HpnVpn.HandshakeWait
import HpnVpn.IoUringUdp
import HpnVpn.KillSwitch
import HpnVpn.LimiterRuns
import HpnVpn.LogRotation
import HpnVpn.MacSetupFaults
import HpnVpn.PoolCount
import HpnVpn.ProviderEnvelope
import HpnVpn.ReassemblyIsolation
import HpnVpn.ReceivePaths
import HpnVpn.RecoveryJournal
import HpnVpn.RekeyAuth
import HpnVpn.RelayAccounting
import HpnVpn.RelayData
import HpnVpn.ReplayRuns
import HpnVpn.ServerPolicy
import HpnVpn.SessionDelivery
import HpnVpn.SessionSteps
import HpnVpn.SliceDecoders
import HpnVpn.TcpTransport
import HpnVpn.TunReader
import HpnVpn.TunnelPackets
